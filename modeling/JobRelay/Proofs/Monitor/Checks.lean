import JobRelay.Proofs.Monitor.OpenAlerts
import Mathlib.Algebra.GroupWithZero.Nat

/-! # The checks

A check finds out what it wants raised, from tables that no check writes, and raises what is not
open yet. Alerts of other kinds do not matter to it, so the checks come to the same whatever order
they run in, and one that fails leaves the others as they are. Only a check that breaks off does not:
the run ends with it and has no summary. This is the check of the debts, and it breaks off exactly
if one of them is kept rounded.
-/

namespace JobRelay

/-- The checks that raise alerts. -/
inductive AlertCheck where
  | stuck
  | capacity
  | debt
deriving DecidableEq, Repr

/-- What an alert to be raised is about: its kind, and its job if it names one. -/
def NewAlert.target (alert : NewAlert) : String × Option String :=
  (Named.name alert.alertType, alert.jobId)

/-- What several checks saw and wrote. -/
def AlertSummary.total (summaries : List AlertSummary) : AlertSummary :=
  { stuckJobsFound := (summaries.map (·.stuckJobsFound)).sum
    alertsCreated := (summaries.map (·.alertsCreated)).sum
    capacityWarning := summaries.any (·.capacityWarning)
    debtWarning := summaries.any (·.debtWarning) }

/-- The alerts that are not about what is known or what comes before them. -/
def unraised (known : List (String × Option String)) : List NewAlert → List NewAlert
  | [] => []
  | alert :: rest =>
    if alert.target ∈ known then unraised known rest
    else alert :: unraised (alert.target :: known) rest

/-- The rows of alerts that are raised one after the other, numbered on from a number. -/
def freshRows (now : Instant) : Nat → List NewAlert → List AlertRow
  | _, [] => []
  | last, alert :: rest => alert.row now (last + 1) :: freshRows now (last + 1) rest

namespace Book

/-- What the open alerts of a book are about. -/
def openTargets (book : Book) : List (String × Option String) :=
  (book.alerts.filter (·.acknowledged == 0)).map AlertRow.target

/-- The book with more alerts raised. -/
def withRaised (book : Book) (now : Instant) (alerts : List NewAlert) : Book :=
  { book with
    alerts := book.alerts ++ freshRows now book.lastAlert alerts
    lastAlert := book.lastAlert + alerts.length }

end Book

namespace AlertCheck

/-- The checks in the order that they are run in. -/
def all : List AlertCheck := [stuck, capacity, debt]

def kind : AlertCheck → AlertType
  | stuck => .stuckJob
  | capacity => .capacityWarning
  | debt => .debtWarning

/-- Runs one check. There is no summary if it breaks off. -/
def run (check : AlertCheck) (book : Book) (config : MonitorConfig) (now : Instant) :
    Option AlertSummary × Book :=
  match check with
  | stuck =>
    let (summary, next) := book.checkStuck config now
    (some summary, next)
  | capacity =>
    let (summary, next) := book.checkCapacity config now
    (some summary, next)
  | debt => book.checkDebt config now

/-- What a check finds, and the alerts that it wants raised. -/
def findings (check : AlertCheck) (book : Book) (config : MonitorConfig) (now : Instant) :
    Except AmountFault (AlertSummary × List NewAlert) :=
  match check with
  | stuck => do
    let jobs ← (book.findStuck config.staleness now).mapError .failed
    return ({ stuckJobsFound := jobs.length }, jobs.map Book.stuckAlert)
  | capacity => do
    let active ← book.activeUsers.mapError .failed
    if config.isOverLevel active then
      return ({ capacityWarning := true }, [Book.capacityAlert config active])
    else return ({}, [])
  | debt => do
    let total ← book.outstandingDebt
    if config.debtWarningThresholdSats < total then
      return ({ debtWarning := true }, [Book.debtAlert config total])
    else return ({}, [])

/-- What a check tells and raises, unless it fails. A table is needed only for alerts to raise. -/
def attempt (check : AlertCheck) (book : Book) (config : MonitorConfig) (now : Instant) :
    Except AmountFault (AlertSummary × List NewAlert) := do
  let (summary, wanted) ← check.findings book config now
  if wanted ≠ [] then (book.need .alerts).mapError .failed
  let fresh := unraised book.openTargets wanted
  return ({ summary with alertsCreated := fresh.length }, fresh)

/-- What a check tells and raises. If it fails it raises nothing and tells of nothing; if it breaks
off it does not even tell that. -/
def outcome (check : AlertCheck) (book : Book) (config : MonitorConfig) (now : Instant) :
    Option AlertSummary × List NewAlert :=
  match check.attempt book config now with
  | .ok (summary, alerts) => (some summary, alerts)
  | .error (.failed _) => (some {}, [])
  | .error .brokenOff => (none, [])

/-- What a check tells, unless it breaks off. -/
def summary (check : AlertCheck) (book : Book) (config : MonitorConfig) (now : Instant) :
    AlertSummary :=
  (check.outcome book config now).1.getD {}

/-- What of a summary belongs to a check. -/
def own (check : AlertCheck) (summary : AlertSummary) : AlertSummary :=
  match check with
  | stuck => { stuckJobsFound := summary.stuckJobsFound }
  | capacity => { capacityWarning := summary.capacityWarning }
  | debt => { debtWarning := summary.debtWarning }

end AlertCheck

namespace Book

variable {book : Book} {config : MonitorConfig} {now : Instant}

/-- Runs checks one after the other, each on the book that the one before it left. One that breaks
off is the last one, and then there are no summaries. -/
def runChecks (book : Book) (config : MonitorConfig) (now : Instant) :
    List AlertCheck → Option (List AlertSummary) × Book
  | [] => (some [], book)
  | check :: rest =>
    match check.run book config now with
    | (none, next) => (none, next)
    | (some summary, next) =>
      let (summaries, last) := next.runChecks config now rest
      (summaries.map (summary :: ·), last)

/-- A debt is kept rounded, in a table of users that is there. -/
def HasRoundedDebt (book : Book) : Prop :=
  book.need .users = .ok () ∧ ∃ user ∈ book.users, Text.maxInt64 < user.debtSats

/-! ## Raising alerts -/

private theorem hasOpenAlert_iff {alert : NewAlert} :
    book.hasOpenAlert alert.alertType alert.jobId ↔ alert.target ∈ book.openTargets := by
  simp only [hasOpenAlert, openTargets, List.any_eq_true, List.mem_map, List.mem_filter,
    Bool.and_eq_true, beq_iff_eq, AlertRow.target, NewAlert.target, Prod.mk.injEq]
  constructor
  · rintro ⟨row, member, ⟨kind, isOpen⟩, job⟩
    exact ⟨row, ⟨member, isOpen⟩, kind, job⟩
  · rintro ⟨row, ⟨member, isOpen⟩, kind, job⟩
    exact ⟨row, member, ⟨kind, isOpen⟩, job⟩

/-- Only whether the targets of the alerts themselves are known matters. -/
theorem unraised_congr {known other : List (String × Option String)} {alerts : List NewAlert}
    (alike : ∀ alert ∈ alerts, alert.target ∈ known ↔ alert.target ∈ other) :
    unraised known alerts = unraised other alerts := by
  induction alerts generalizing known other with
  | nil => rfl
  | cons alert rest ih =>
    have rest_alike : ∀ later ∈ rest, later.target ∈ known ↔ later.target ∈ other :=
      fun later member => alike later (List.mem_cons_of_mem _ member)
    rw [unraised, unraised]
    by_cases here : alert.target ∈ known
    · rw [if_pos here, if_pos ((alike alert List.mem_cons_self).mp here), ih rest_alike]
    · rw [if_neg here, if_neg (here ∘ (alike alert List.mem_cons_self).mpr)]
      congr 1
      refine ih fun later member => ?_
      rw [List.mem_cons, List.mem_cons, rest_alike later member]

theorem openTargets_withRaised (alerts : List NewAlert) :
    (book.withRaised now alerts).openTargets = book.openTargets ++ alerts.map NewAlert.target := by
  have rows (last : Nat) :
      ((freshRows now last alerts).filter (·.acknowledged == 0)).map AlertRow.target =
        alerts.map NewAlert.target := by
    induction alerts generalizing last with
    | nil => rfl
    | cons alert rest ih =>
      rw [freshRows, List.filter_cons_of_pos (by rfl), List.map_cons, ih, List.map_cons]
      rfl
  rw [openTargets, withRaised, List.filter_append, List.map_append, rows, ← openTargets]

private theorem withRaised_withRaised (first second : List NewAlert) :
    (book.withRaised now first).withRaised now second = book.withRaised now (first ++ second) := by
  have rows (last : Nat) : freshRows now last (first ++ second) =
      freshRows now last first ++ freshRows now (last + first.length) second := by
    induction first generalizing last with
    | nil => rfl
    | cons alert rest ih =>
      rw [List.cons_append, freshRows, ih, freshRows, List.cons_append, List.length_cons,
        Nat.add_right_comm, Nat.add_assoc]
  simp only [withRaised, rows, List.append_assoc, List.length_append, Nat.add_assoc]

private theorem raiseAlert_eq (table : book.need .alerts = .ok ()) (alert : NewAlert) :
    book.raiseAlert alert now =
      if alert.target ∈ book.openTargets then .ok (false, book)
      else .ok (true, book.withRaised now [alert]) := by
  refine (bind_of_eq_ok table).trans ?_
  by_cases known : alert.target ∈ book.openTargets
  · rw [if_pos known, if_pos (hasOpenAlert_iff.mpr known)]
    rfl
  · rw [if_neg known, if_neg (hasOpenAlert_iff.not.mpr known)]
    rfl

/-- Alerts that are raised one after the other are those that are not about what is open already. -/
theorem raiseAll_eq (table : book.need .alerts = .ok ()) (alerts : List NewAlert) :
    book.raiseAll now alerts = (some (unraised book.openTargets alerts).length,
      book.withRaised now (unraised book.openTargets alerts)) := by
  induction alerts generalizing book with
  | nil => simp [raiseAll, unraised, withRaised, freshRows]
  | cons alert rest ih =>
    rw [raiseAll, raiseAlert_eq table, unraised]
    by_cases known : alert.target ∈ book.openTargets
    · simp only [if_pos known, ih table, Option.map_some, Bool.toNat_false, Nat.add_zero]
    · have table' : (book.withRaised now [alert]).need .alerts = .ok () := table
      have others : unraised (book.withRaised now [alert]).openTargets rest =
          unraised (alert.target :: book.openTargets) rest := by
        apply unraised_congr
        intro later _
        rw [openTargets_withRaised, List.map_singleton, List.mem_append, List.mem_singleton,
          List.mem_cons, or_comm]
      simp only [if_neg known, ih table', others, withRaised_withRaised, Option.map_some,
        Bool.toNat_true, List.length_cons, List.singleton_append]

private theorem raiseAlert_eq_error {fault : StoreError} (table : book.need .alerts = .error fault)
    (alert : NewAlert) : book.raiseAlert alert now = .error fault := by
  rw [raiseAlert, table]
  rfl

/-! ## One check -/

theorem withRaised_nil : book.withRaised now [] = book := by
  simp [withRaised, freshRows]

section Outcome

variable {check : AlertCheck} {summary : AlertSummary} {wanted : List NewAlert}
  {fault : AmountFault} {error : StoreError}

private theorem outcome_of_failed
    (failed : check.attempt book config now = .error (.failed error)) :
    check.outcome book config now = (some {}, []) := by
  rw [AlertCheck.outcome, failed]

/-- A check ends as it does when it cannot find out what to raise. -/
private theorem attempt_of_findings_error (failed : check.findings book config now = .error fault) :
    check.attempt book config now = .error fault := by
  rw [AlertCheck.attempt, failed]
  rfl

/-- A check that wants nothing raised needs no table for it. -/
private theorem outcome_of_nothing (found : check.findings book config now = .ok (summary, [])) :
    check.outcome book config now = (some { summary with alertsCreated := 0 }, []) := by
  rw [AlertCheck.outcome, AlertCheck.attempt, found]
  rfl

theorem outcome_of_table (found : check.findings book config now = .ok (summary, wanted))
    (table : book.need .alerts = .ok ()) :
    check.outcome book config now =
      (some { summary with alertsCreated := (unraised book.openTargets wanted).length },
        unraised book.openTargets wanted) := by
  rw [AlertCheck.outcome, AlertCheck.attempt, found]
  cases wanted with
  | nil => rfl
  | cons alert rest =>
    simp only [bind, Except.bind, table]
    rfl

/-- A check fails if what it wants raised has no table. -/
private theorem attempt_of_no_table {alert : NewAlert} {rest : List NewAlert}
    (found : check.findings book config now = .ok (summary, alert :: rest))
    (table : book.need .alerts = .error error) :
    check.attempt book config now = .error (.failed error) := by
  rw [AlertCheck.attempt, found]
  simp only [bind, Except.bind, table]
  rfl

/-- A check that wants one alert raised raises it if it can. -/
private theorem raiseOne_eq {alert : NewAlert}
    (found : check.findings book config now = .ok (summary, [alert])) :
    (match book.raiseAlert alert now with
      | .error _ => (some {}, book)
      | .ok (raised, next) => (some { summary with alertsCreated := raised.toNat }, next)) =
      ((check.outcome book config now).1,
        book.withRaised now (check.outcome book config now).2) := by
  cases table : book.need .alerts with
  | error error =>
    simp only [raiseAlert_eq_error table, outcome_of_failed (attempt_of_no_table found table),
      withRaised_nil]
  | ok _ =>
    rw [outcome_of_table found table, raiseAlert_eq table, unraised, unraised]
    by_cases known : alert.target ∈ book.openTargets
    · simp only [if_pos known, withRaised_nil, Bool.toNat_false, List.length_nil]
    · simp only [if_neg known, unraised, Bool.toNat_true, List.length_singleton]

end Outcome

/-- A check ends with a fault and raises nothing, or it finds what it raises. -/
theorem outcome_cases (check : AlertCheck) (book : Book) (config : MonitorConfig) (now : Instant) :
    ((∃ fault, check.attempt book config now = .error fault) ∧
        (check.outcome book config now = (some {}, []) ∨
          check.outcome book config now = (none, []))) ∨
      ∃ summary wanted, check.findings book config now = .ok (summary, wanted) ∧
        check.outcome book config now =
          (some { summary with alertsCreated := (unraised book.openTargets wanted).length },
            unraised book.openTargets wanted) := by
  cases found : check.findings book config now with
  | error fault =>
    have ends := attempt_of_findings_error found
    refine .inl ⟨⟨fault, ends⟩, ?_⟩
    rw [AlertCheck.outcome, ends]
    cases fault with
    | failed => exact .inl rfl
    | brokenOff => exact .inr rfl
  | ok answer =>
    obtain ⟨summary, wanted⟩ := answer
    cases table : book.need .alerts with
    | ok _ => exact .inr ⟨summary, wanted, rfl, outcome_of_table found table⟩
    | error error =>
      cases wanted with
      | nil => exact .inr ⟨summary, [], rfl, outcome_of_nothing found⟩
      | cons alert rest =>
        have failed := attempt_of_no_table found table
        exact .inl ⟨⟨.failed error, failed⟩, .inl (outcome_of_failed failed)⟩

/-- The stuck jobs are told of, and their alerts are raised one after the other. -/
private theorem run_stuck_eq :
    AlertCheck.stuck.run book config now =
      ((AlertCheck.stuck.outcome book config now).1,
        book.withRaised now (AlertCheck.stuck.outcome book config now).2) := by
  cases search : book.findStuck config.staleness now with
  | error error =>
    have failed : AlertCheck.stuck.findings book config now = .error (.failed error) := by
      rw [AlertCheck.findings, search]
      rfl
    simp only [outcome_of_failed (attempt_of_findings_error failed), withRaised_nil,
      AlertCheck.run, checkStuck, search]
  | ok jobs =>
    have found : AlertCheck.stuck.findings book config now =
        .ok ({ stuckJobsFound := jobs.length }, jobs.map stuckAlert) := by
      rw [AlertCheck.findings, search]
      rfl
    simp only [AlertCheck.run, checkStuck, search]
    cases table : book.need .alerts with
    | ok _ => simp only [outcome_of_table found table, raiseAll_eq table]
    | error error =>
      cases jobs with
      | nil =>
        rw [outcome_of_nothing found, withRaised_nil]
        rfl
      | cons job rest =>
        simp only [outcome_of_failed (attempt_of_no_table found table), withRaised_nil,
          List.map_cons, raiseAll, raiseAlert_eq_error table]

private theorem run_capacity_eq :
    AlertCheck.capacity.run book config now =
      ((AlertCheck.capacity.outcome book config now).1,
        book.withRaised now (AlertCheck.capacity.outcome book config now).2) := by
  cases count : book.activeUsers with
  | error error =>
    have failed : AlertCheck.capacity.findings book config now = .error (.failed error) := by
      rw [AlertCheck.findings, count]
      rfl
    simp only [outcome_of_failed (attempt_of_findings_error failed), withRaised_nil,
      AlertCheck.run, checkCapacity, count]
  | ok active =>
    simp only [AlertCheck.run, checkCapacity, count]
    by_cases exceeds : config.isOverLevel active
    · have found : AlertCheck.capacity.findings book config now =
          .ok ({ capacityWarning := true }, [capacityAlert config active]) := by
        rw [AlertCheck.findings, count]
        exact if_pos exceeds
      rw [if_pos exceeds, ← raiseOne_eq found]
      cases book.raiseAlert (capacityAlert config active) now <;> rfl
    · have found : AlertCheck.capacity.findings book config now = .ok ({}, []) := by
        rw [AlertCheck.findings, count]
        exact if_neg exceeds
      rw [if_neg exceeds, outcome_of_nothing found, withRaised_nil]

private theorem run_debt_eq :
    AlertCheck.debt.run book config now =
      ((AlertCheck.debt.outcome book config now).1,
        book.withRaised now (AlertCheck.debt.outcome book config now).2) := by
  cases sum : book.outstandingDebt with
  | error fault =>
    have ends : AlertCheck.debt.findings book config now = .error fault := by
      rw [AlertCheck.findings, sum]
      rfl
    rw [AlertCheck.outcome, attempt_of_findings_error ends, AlertCheck.run, checkDebt, sum]
    cases fault <;> simp only [withRaised_nil]
  | ok total =>
    simp only [AlertCheck.run, checkDebt, sum]
    by_cases exceeds : config.debtWarningThresholdSats < total
    · have found : AlertCheck.debt.findings book config now =
          .ok ({ debtWarning := true }, [debtAlert config total]) := by
        rw [AlertCheck.findings, sum]
        exact if_pos exceeds
      rw [if_pos exceeds]
      exact raiseOne_eq found
    · have found : AlertCheck.debt.findings book config now = .ok ({}, []) := by
        rw [AlertCheck.findings, sum]
        exact if_neg exceeds
      rw [if_neg exceeds, outcome_of_nothing found, withRaised_nil]

/-- A check does what it attempts, or nothing. -/
theorem run_eq (check : AlertCheck) :
    check.run book config now =
      ((check.outcome book config now).1,
        book.withRaised now (check.outcome book config now).2) := by
  cases check with
  | stuck => exact run_stuck_eq
  | capacity => exact run_capacity_eq
  | debt => exact run_debt_eq

/-! ## Checks that break off -/

theorem outstandingDebt_eq_brokenOff_iff :
    book.outstandingDebt = .error .brokenOff ↔ book.HasRoundedDebt := by
  have rounded : ((book.users.map (·.debtSats)).filter (0 < ·)).all Text.fitsInt64 = false ↔
      ∃ user ∈ book.users, Text.maxInt64 < user.debtSats := by
    simp only [List.all_eq_false, List.mem_filter, List.mem_map, Text.fitsInt64_iff, Text.minInt64,
      Text.maxInt64, decide_eq_true_eq]
    constructor
    · rintro ⟨_, ⟨⟨user, member, rfl⟩, positive⟩, outside⟩
      exact ⟨user, member, by omega⟩
    · rintro ⟨user, member, beyond⟩
      exact ⟨_, ⟨⟨user, member, rfl⟩, by omega⟩, by omega⟩
  rw [HasRoundedDebt, ← rounded, outstandingDebt]
  cases book.need .users with
  | error => exact ⟨nofun, nofun⟩
  | ok =>
    simp only [Except.mapError, bind, Except.bind, true_and]
    cases ((book.users.map (·.debtSats)).filter (0 < ·)).all Text.fitsInt64 with
    | false => exact ⟨fun _ => rfl, fun _ => rfl⟩
    | true =>
      refine ⟨fun ends => ?_, nofun⟩
      split at ends
      · rename_i no
        cases no
      · split at ends <;> cases ends

/-- A statement that fails is no reason to break off. -/
private theorem mapError_failed_ne {α : Type} {result : Except StoreError α} :
    result.mapError AmountFault.failed ≠ .error .brokenOff := by
  intro ends
  obtain ⟨_, _, same⟩ := mapError_eq_error_iff.mp ends
  cases same

/-- A check breaks off only while it finds out what it wants raised. -/
private theorem findings_of_attempt_brokenOff {check : AlertCheck}
    (ends : check.attempt book config now = .error .brokenOff) :
    check.findings book config now = .error .brokenOff := by
  rw [AlertCheck.attempt, bind_eq_error_iff] at ends
  rcases ends with ends | ⟨⟨summary, wanted⟩, _, ends⟩
  · exact ends
  · dsimp only at ends
    split at ends
    · rcases bind_eq_error_iff.mp ends with ends | ⟨_, _, ends⟩
      · exact (mapError_failed_ne ends).elim
      · cases ends
    · cases ends

/-- Of all checks the one of the debts can break off, and does so if a debt is kept rounded. -/
theorem attempt_eq_brokenOff_iff {check : AlertCheck} :
    check.attempt book config now = .error .brokenOff ↔ check = .debt ∧ book.HasRoundedDebt := by
  rw [← outstandingDebt_eq_brokenOff_iff]
  constructor
  · intro ends
    have search := findings_of_attempt_brokenOff ends
    cases check with
    | stuck =>
      rcases bind_eq_error_iff.mp search with search | ⟨_, _, search⟩
      · exact (mapError_failed_ne search).elim
      · cases search
    | capacity =>
      rcases bind_eq_error_iff.mp search with search | ⟨_, _, search⟩
      · exact (mapError_failed_ne search).elim
      · split at search <;> cases search
    | debt =>
      rcases bind_eq_error_iff.mp search with search | ⟨_, _, search⟩
      · exact ⟨rfl, search⟩
      · split at search <;> cases search
  · rintro ⟨rfl, sum⟩
    apply attempt_of_findings_error
    rw [AlertCheck.findings, sum]
    rfl

private theorem outcome_eq_none_iff {check : AlertCheck} :
    (check.outcome book config now).1 = none ↔ check = .debt ∧ book.HasRoundedDebt := by
  rw [← attempt_eq_brokenOff_iff, AlertCheck.outcome]
  split <;> rename_i ends <;> rw [ends] <;> simp

/-! ## One check among others -/

private theorem findings_withRaised (check : AlertCheck) (alerts : List NewAlert) :
    check.findings (book.withRaised now alerts) config now = check.findings book config now := by
  cases check <;> rfl

theorem name_inj {kind other : AlertType} (same : Named.name kind = Named.name other) :
    kind = other := by
  revert same
  cases kind <;> cases other <;> decide

theorem kind_inj {check other : AlertCheck} (same : check.kind = other.kind) : check = other := by
  revert same
  cases check <;> cases other <;> decide

/-- A check wants only alerts of its kind raised. -/
private theorem kind_of_findings {check : AlertCheck} {summary : AlertSummary}
    {wanted : List NewAlert} (found : check.findings book config now = .ok (summary, wanted)) :
    summary = check.own summary ∧ ∀ alert ∈ wanted, alert.alertType = check.kind := by
  cases check with
  | stuck =>
    simp only [AlertCheck.findings, bind_eq_ok_iff, pure_eq_ok_iff] at found
    obtain ⟨jobs, _, found⟩ := found
    cases found
    refine ⟨rfl, fun alert member => ?_⟩
    obtain ⟨job, _, rfl⟩ := List.mem_map.mp member
    rfl
  | capacity =>
    simp only [AlertCheck.findings, bind_eq_ok_iff] at found
    obtain ⟨active, _, found⟩ := found
    split at found <;> cases pure_eq_ok_iff.mp found
    · exact ⟨rfl, List.forall_mem_singleton.mpr rfl⟩
    · exact ⟨rfl, nofun⟩
  | debt =>
    simp only [AlertCheck.findings, bind_eq_ok_iff] at found
    obtain ⟨total, _, found⟩ := found
    split at found <;> cases pure_eq_ok_iff.mp found
    · exact ⟨rfl, List.forall_mem_singleton.mpr rfl⟩
    · exact ⟨rfl, nofun⟩

theorem mem_of_mem_unraised {known : List (String × Option String)} {alerts : List NewAlert}
    {alert : NewAlert} (member : alert ∈ unraised known alerts) : alert ∈ alerts := by
  induction alerts generalizing known with
  | nil => cases member
  | cons first rest ih =>
    rw [unraised] at member
    split at member
    · exact List.mem_cons_of_mem _ (ih member)
    · rcases List.mem_cons.mp member with rfl | later
      · exact List.mem_cons_self
      · exact List.mem_cons_of_mem _ (ih later)

/-- What a check tells is its own and the number of alerts that it raises, which are of its kind. -/
theorem outcome_spec (check : AlertCheck) :
    (∀ summary, (check.outcome book config now).1 = some summary →
      summary = { check.own summary with
        alertsCreated := (check.outcome book config now).2.length }) ∧
      ∀ alert ∈ (check.outcome book config now).2, alert.alertType = check.kind := by
  rcases outcome_cases check book config now with
    ⟨_, failed | ends⟩ | ⟨found, wanted, search, done⟩
  · rw [failed]
    refine ⟨?_, nofun⟩
    rintro _ ⟨⟩
    cases check <;> rfl
  · rw [ends]
    exact ⟨nofun, nofun⟩
  · obtain ⟨own, kind⟩ := kind_of_findings search
    rw [done]
    refine ⟨?_, fun alert member => kind alert (mem_of_mem_unraised member)⟩
    rintro _ ⟨⟩
    rw [own]
    cases check <;> rfl

/-- Alerts of other kinds do not matter to a check. -/
theorem outcome_withRaised {check : AlertCheck} {alerts : List NewAlert}
    (others : ∀ alert ∈ alerts, alert.alertType ≠ check.kind) :
    check.outcome (book.withRaised now alerts) config now = check.outcome book config now := by
  have known {summary : AlertSummary} {wanted : List NewAlert}
      (found : check.findings book config now = .ok (summary, wanted)) :
      unraised (book.withRaised now alerts).openTargets wanted =
        unraised book.openTargets wanted := by
    apply unraised_congr
    intro alert member
    rw [openTargets_withRaised, List.mem_append, or_iff_left]
    intro added
    obtain ⟨other, listed, same⟩ := List.mem_map.mp added
    have kind := (kind_of_findings found).2 alert member
    exact others other listed (kind ▸ name_inj (Prod.mk.inj same).1)
  have attempts : check.attempt (book.withRaised now alerts) config now =
      check.attempt book config now := by
    rw [AlertCheck.attempt, AlertCheck.attempt, findings_withRaised]
    cases found : check.findings book config now with
    | error => rfl
    | ok answer =>
      obtain ⟨summary, wanted⟩ := answer
      simp only [bind, Except.bind]
      rw [known found]
      rfl
  rw [AlertCheck.outcome, AlertCheck.outcome, attempts]

/-! ## Checks in any order -/

private theorem fst_outcome {check : AlertCheck} (tells : ¬(check = .debt ∧ book.HasRoundedDebt)) :
    (check.outcome book config now).1 = some (check.summary book config now) := by
  cases told : (check.outcome book config now).1 with
  | none => exact (tells (outcome_eq_none_iff.mp told)).elim
  | some summary => rw [AlertCheck.summary, told, Option.getD_some]

/-- A check that breaks off raises nothing. -/
private theorem outcome_of_rounded (rounded : book.HasRoundedDebt) :
    AlertCheck.debt.outcome book config now = (none, []) := by
  rw [AlertCheck.outcome, attempt_eq_brokenOff_iff.mpr ⟨rfl, rounded⟩]

/-- Alerts that other checks raise do not matter to a check. -/
private theorem outcome_after {check other : AlertCheck} (different : other ≠ check) :
    check.outcome (book.withRaised now (other.outcome book config now).2) config now =
      check.outcome book config now := by
  apply outcome_withRaised
  intro alert raised same
  have kind := (outcome_spec other).2 alert raised
  exact different (kind_inj (kind.symm.trans same))

/-- Checks that are run one after the other come to what each of them comes to alone. -/
theorem runChecks_eq {order : List AlertCheck} (once : order.Nodup)
    (tells : ∀ check ∈ order, ¬(check = .debt ∧ book.HasRoundedDebt)) :
    book.runChecks config now order =
      (some (order.map fun check => check.summary book config now),
        book.withRaised now (order.flatMap fun check => (check.outcome book config now).2)) := by
  induction order generalizing book with
  | nil => rw [runChecks, List.map_nil, List.flatMap_nil, withRaised_nil]
  | cons check rest ih =>
    obtain ⟨new, once⟩ := List.nodup_cons.mp once
    have unaffected : ∀ other ∈ rest,
        other.outcome (book.withRaised now (check.outcome book config now).2) config now =
          other.outcome book config now :=
      fun other member => outcome_after fun same => new (same ▸ member)
    have later : (book.withRaised now (check.outcome book config now).2).runChecks config now rest =
        _ := ih once fun other member => tells other (List.mem_cons_of_mem _ member)
    rw [runChecks, run_eq, fst_outcome (tells check List.mem_cons_self)]
    simp only [later, withRaised_withRaised, Option.map_some, List.map_cons, List.flatMap_cons,
      AlertCheck.summary]
    rw [List.map_congr_left fun other member =>
        congrArg (·.1.getD {}) (unaffected other member),
      List.flatMap_congr fun other member => congrArg Prod.snd (unaffected other member)]

theorem runChecks_append (first second : List AlertCheck) :
    book.runChecks config now (first ++ second) =
      match book.runChecks config now first with
      | (none, next) => (none, next)
      | (some summaries, next) =>
        ((next.runChecks config now second).1.map (summaries ++ ·),
          (next.runChecks config now second).2) := by
  induction first generalizing book with
  | nil => simp [runChecks]
  | cons check rest ih =>
    rw [List.cons_append, runChecks, runChecks]
    cases check.run book config now with
    | mk told next =>
      cases told with
      | none => rfl
      | some summary =>
        simp only [ih]
        cases next.runChecks config now rest with
        | mk summaries last =>
          cases summaries with
          | none => rfl
          | some summaries => simp [Function.comp_def]

/-- If a debt is kept rounded, the checks before that of the debts come to what they come to alone,
and none is run after it. -/
theorem runChecks_of_rounded {before after : List AlertCheck}
    (once : (before ++ .debt :: after).Nodup) (rounded : book.HasRoundedDebt) :
    book.runChecks config now (before ++ .debt :: after) =
      (none, book.withRaised now
        (before.flatMap fun check => (check.outcome book config now).2)) := by
  obtain ⟨early, _, apart⟩ := List.nodup_append.mp once
  have tells : ∀ check ∈ before, ¬(check = .debt ∧ book.HasRoundedDebt) :=
    fun check member here => apart check member _ List.mem_cons_self here.1
  have still (alerts : List NewAlert) : (book.withRaised now alerts).HasRoundedDebt := rounded
  rw [runChecks_append, runChecks_eq early tells]
  simp only [runChecks, run_eq, outcome_of_rounded (still _), withRaised_nil, Option.map_none]

/-- The summary of a run is put together from what belongs to each check. -/
private theorem total_eq {stuck capacity debt : AlertSummary}
    (first : stuck = { AlertCheck.stuck.own stuck with alertsCreated := stuck.alertsCreated })
    (second : capacity =
      { AlertCheck.capacity.own capacity with alertsCreated := capacity.alertsCreated })
    (third : debt = { AlertCheck.debt.own debt with alertsCreated := debt.alertsCreated }) :
    AlertSummary.total [stuck, capacity, debt] =
      { stuckJobsFound := stuck.stuckJobsFound
        alertsCreated := stuck.alertsCreated + capacity.alertsCreated + debt.alertsCreated
        capacityWarning := capacity.capacityWarning
        debtWarning := debt.debtWarning } := by
  rw [first, second, third]
  simp [AlertSummary.total, AlertCheck.own, Nat.add_assoc]

/-- What a check tells is its own, and how many alerts it raised. -/
private theorem summary_own (check : AlertCheck) (book : Book) {summary : AlertSummary}
    (told : (check.run book config now).1 = some summary) :
    summary = { check.own summary with alertsCreated := summary.alertsCreated } := by
  rw [run_eq] at told
  rw [(outcome_spec check).1 summary told]
  cases check <;> rfl

/-- The three checks run as a list of checks does. -/
theorem runAlertChecks_eq_runChecks :
    book.runAlertChecks config now =
      ((book.runChecks config now AlertCheck.all).1.map .total,
        (book.runChecks config now AlertCheck.all).2) := by
  simp only [AlertCheck.all, runChecks, AlertCheck.run, runAlertChecks]
  cases last : ((book.checkStuck config now).2.checkCapacity config now).2.checkDebt config now with
  | mk told final =>
    cases told with
    | none => rfl
    | some summary =>
      refine Prod.ext (congrArg some (total_eq ?_ ?_ ?_).symm) rfl
      · exact summary_own .stuck book rfl
      · exact summary_own .capacity (book.checkStuck config now).2 rfl
      · exact summary_own .debt _ (congrArg Prod.fst last)

/-- A run of the checks adds what each of them adds alone, whether or not the last one breaks off. -/
theorem snd_runAlertChecks :
    (book.runAlertChecks config now).2 = book.withRaised now
      (AlertCheck.all.flatMap fun check => (check.outcome book config now).2) := by
  rw [runAlertChecks_eq_runChecks]
  by_cases rounded : book.HasRoundedDebt
  · have ends : book.runChecks config now ([.stuck, .capacity] ++ .debt :: []) = _ :=
      runChecks_of_rounded (by decide) rounded
    refine (congrArg Prod.snd ends).trans ?_
    simp [AlertCheck.all, outcome_of_rounded rounded]
  · have together : book.runChecks config now AlertCheck.all = _ :=
      runChecks_eq (by decide) fun _ _ here => rounded here.2
    rw [together]

end Book

end JobRelay
