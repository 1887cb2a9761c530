import JobRelay.Proofs.Monitor.Checks
import JobRelay.Proofs.Monitor.StuckJobs

/-! # Runs of the checks

Where every table can be read, a run of the checks raises exactly the alerts that are wanted and not
open yet. After it each of them is open once, so that another run at the same time finds the same
and writes nothing. An alert is about a job and not about its user; but jobs do not change hands, so
in every book that operations lead to an open alert names the user of its job as well.
-/

namespace JobRelay

/-! ## Alerts that are not open yet -/

section Unraised

variable {known : List (String × Option String)}

private theorem unraised_append (xs ys : List NewAlert) :
    unraised known (xs ++ ys) =
      unraised known xs ++ unraised (xs.map NewAlert.target ++ known) ys := by
  induction xs generalizing known with
  | nil => rfl
  | cons alert rest ih =>
    rw [List.cons_append, unraised, unraised]
    by_cases here : alert.target ∈ known
    · rw [if_pos here, if_pos here, ih]
      congr 1
      refine Book.unraised_congr fun later _ => ?_
      simp only [List.map_cons, List.cons_append, List.mem_cons, List.mem_append]
      constructor
      · exact .inr
      · rintro (same | other)
        · exact .inr (same ▸ here)
        · exact other
    · rw [if_neg here, if_neg here, ih, List.cons_append]
      congr 2
      refine Book.unraised_congr fun later _ => ?_
      simp only [List.map_cons, List.cons_append, List.mem_cons, List.mem_append]
      exact or_left_comm

/-- What is known and what is raised have different targets. -/
private theorem nodup_unraised (alerts : List NewAlert) (single : known.Nodup) :
    (known ++ (unraised known alerts).map NewAlert.target).Nodup := by
  induction alerts generalizing known with
  | nil => simpa [unraised] using single
  | cons alert rest ih =>
    rw [unraised]
    by_cases here : alert.target ∈ known
    · rw [if_pos here]
      exact ih single
    · rw [if_neg here, List.map_cons]
      exact List.perm_middle.nodup_iff.mpr (ih (List.nodup_cons.mpr ⟨here, single⟩))

/-- The target of every alert that is wanted is known or raised. -/
private theorem target_mem_of_mem {alerts : List NewAlert} {alert : NewAlert}
    (member : alert ∈ alerts) :
    alert.target ∈ known ++ (unraised known alerts).map NewAlert.target := by
  induction alerts generalizing known with
  | nil => cases member
  | cons first rest ih =>
    rw [unraised]
    by_cases here : first.target ∈ known
    · rw [if_pos here]
      rcases List.mem_cons.mp member with rfl | later
      · exact List.mem_append_left _ here
      · exact ih later
    · rw [if_neg here, List.map_cons]
      rcases List.mem_cons.mp member with rfl | later
      · exact List.mem_append_right _ List.mem_cons_self
      · have settled : alert.target ∈ (first.target :: known) ++ _ := ih later
        exact List.perm_middle.mem_iff.mpr settled

private theorem unraised_eq_nil {alerts : List NewAlert}
    (all : ∀ alert ∈ alerts, alert.target ∈ known) : unraised known alerts = [] := by
  induction alerts with
  | nil => rfl
  | cons alert rest ih =>
    rw [unraised, if_pos (all alert List.mem_cons_self)]
    exact ih fun later member => all later (List.mem_cons_of_mem _ member)

private theorem not_known_of_mem_unraised {alerts : List NewAlert} {alert : NewAlert}
    (member : alert ∈ unraised known alerts) (single : known.Nodup) : alert.target ∉ known := by
  intro taken
  have apart := (List.nodup_append.mp (nodup_unraised alerts single)).2.2
  exact apart _ taken _ (List.mem_map_of_mem member) rfl

/-- The rows of raised alerts are theirs but for the numbers. -/
private theorem mem_freshRows {now : Instant} {last : Nat} {alerts : List NewAlert} {row : AlertRow}
    (member : row ∈ freshRows now last alerts) :
    ∃ alert ∈ alerts, row = alert.row now row.id := by
  induction alerts generalizing last with
  | nil => cases member
  | cons alert rest ih =>
    rcases List.mem_cons.mp member with rfl | later
    · exact ⟨alert, List.mem_cons_self, rfl⟩
    · obtain ⟨other, listed, here⟩ := ih later
      exact ⟨other, List.mem_cons_of_mem _ listed, here⟩

private theorem length_freshRows (now : Instant) (last : Nat) (alerts : List NewAlert) :
    (freshRows now last alerts).length = alerts.length := by
  induction alerts generalizing last with
  | nil => rfl
  | cons alert rest ih => rw [freshRows, List.length_cons, ih, List.length_cons]

/-- A value that a list takes once is taken by one element. -/
private theorem filter_eq_singleton {α β : Type} [BEq β] [LawfulBEq β] {f : α → β} {items : List α}
    (once : (items.map f).Nodup) {value : β} (taken : value ∈ items.map f) :
    ∃ item, items.filter (f · == value) = [item] := by
  obtain ⟨item, member, rfl⟩ := List.mem_map.mp taken
  obtain ⟨before, after, rfl⟩ := List.append_of_mem member
  rw [List.map_append, List.map_cons, List.nodup_append, List.nodup_cons] at once
  obtain ⟨_, ⟨later, _⟩, earlier⟩ := once
  refine ⟨item, ?_⟩
  have front : before.filter (f · == f item) = [] := by
    rw [List.filter_eq_nil_iff]
    intro other listed same
    exact earlier _ (List.mem_map_of_mem listed) _ List.mem_cons_self (eq_of_beq same)
  have back : after.filter (f · == f item) = [] := by
    rw [List.filter_eq_nil_iff]
    intro other listed same
    exact later (eq_of_beq same ▸ List.mem_map_of_mem listed)
  rw [List.filter_append, front, List.filter_cons, if_pos (beq_self_eq_true _), back,
    List.nil_append]

end Unraised

namespace Book

variable {book after : Book} {config : MonitorConfig} {now : Instant} {stuck : List StuckJob}
  {active : Nat} {debt : Int}

/-! ## A run on readable tables -/

/-- What is wanted raised where some jobs are stuck, some users are active and some debt is owed. -/
def wantedAlerts (config : MonitorConfig) (stuck : List StuckJob) (active : Nat) (debt : Int) :
    List NewAlert :=
  stuck.map stuckAlert ++
    ((if config.isOverLevel active then [capacityAlert config active] else []) ++
      if config.debtWarningThresholdSats < debt then [debtAlert config debt] else [])

/-- What is wanted raised about a stuck job is about one of those that are stuck. -/
private theorem exists_of_mem_wantedAlerts {alert : NewAlert}
    (wanted : alert ∈ wantedAlerts config stuck active debt)
    (stuckKind : alert.alertType = .stuckJob) : ∃ job ∈ stuck, alert = stuckAlert job := by
  rw [wantedAlerts, List.mem_append, List.mem_append] at wanted
  rcases wanted with first | second | third
  · obtain ⟨job, listed, rfl⟩ := List.mem_map.mp first
    exact ⟨job, listed, rfl⟩
  · split at second
    · obtain rfl := List.mem_singleton.mp second
      cases stuckKind
    · cases second
  · split at third
    · obtain rfl := List.mem_singleton.mp third
      cases stuckKind
    · cases third

/-- The tables that the checks read and write are there and can be read. -/
structure Checkable (book : Book) (config : MonitorConfig) (now : Instant) (stuck : List StuckJob)
    (active : Nat) (debt : Int) : Prop where
  stuck : book.findStuck config.staleness now = .ok stuck
  active : book.activeUsers = .ok active
  debt : book.outstandingDebt = .ok debt
  table : book.need .alerts = .ok ()

private theorem Checkable.withRaised (checkable : book.Checkable config now stuck active debt)
    (alerts : List NewAlert) : (book.withRaised now alerts).Checkable config now stuck active debt :=
  ⟨checkable.stuck, checkable.active, checkable.debt, checkable.table⟩

/-- Alerts of different kinds do not come in each other's way. -/
private theorem unraised_wantedAlerts (known : List (String × Option String)) :
    unraised known (wantedAlerts config stuck active debt) =
      unraised known (stuck.map stuckAlert) ++
        (unraised known (if config.isOverLevel active then [capacityAlert config active] else []) ++
          unraised known
            (if config.debtWarningThresholdSats < debt then [debtAlert config debt] else [])) := by
  have apart {first second : List NewAlert} (kinds : ∀ a ∈ first, ∀ b ∈ second,
      a.alertType ≠ b.alertType) (known : List (String × Option String)) :
      unraised known (first ++ second) = unraised known first ++ unraised known second := by
    rw [unraised_append]
    congr 1
    refine unraised_congr fun alert member => ?_
    rw [List.mem_append, or_iff_right]
    intro taken
    obtain ⟨other, listed, same⟩ := List.mem_map.mp taken
    exact kinds other listed alert member (name_inj (Prod.mk.inj same).1)
  rw [wantedAlerts, apart, apart]
  · intro a first b second
    split at first <;> split at second <;> simp_all [capacityAlert, debtAlert]
  · intro a first b second
    obtain ⟨job, _, rfl⟩ := List.mem_map.mp first
    rcases List.mem_append.mp second with second | second <;> split at second <;>
      simp_all [stuckAlert, capacityAlert, debtAlert]

private theorem runAlertChecks_of_checkable
    (checkable : book.Checkable config now stuck active debt) :
    book.runAlertChecks config now =
      (some {
          stuckJobsFound := stuck.length
          alertsCreated :=
            (unraised book.openTargets (wantedAlerts config stuck active debt)).length
          capacityWarning := config.isOverLevel active
          debtWarning := decide (config.debtWarningThresholdSats < debt) },
        book.withRaised now (unraised book.openTargets (wantedAlerts config stuck active debt))) := by
  have first : AlertCheck.stuck.findings book config now =
      .ok ({ stuckJobsFound := stuck.length }, stuck.map stuckAlert) :=
    bind_of_eq_ok (mapError_eq_ok_iff.mpr checkable.stuck)
  have second : AlertCheck.capacity.findings book config now =
      .ok ({ capacityWarning := config.isOverLevel active },
        if config.isOverLevel active then [capacityAlert config active] else []) := by
    refine (bind_of_eq_ok (mapError_eq_ok_iff.mpr checkable.active)).trans ?_
    cases config.isOverLevel active <;> rfl
  have third : AlertCheck.debt.findings book config now =
      .ok ({ debtWarning := decide (config.debtWarningThresholdSats < debt) },
        if config.debtWarningThresholdSats < debt then [debtAlert config debt] else []) := by
    refine (bind_of_eq_ok checkable.debt).trans ?_
    by_cases exceeds : config.debtWarningThresholdSats < debt
    · simp [exceeds, pure, Except.pure]
    · simp [exceeds, pure, Except.pure]
  have healthy : ¬book.HasRoundedDebt := fun rounded => by
    have ends := outstandingDebt_eq_brokenOff_iff.mpr rounded
    rw [checkable.debt] at ends
    cases ends
  have together : book.runChecks config now AlertCheck.all = _ :=
    runChecks_eq (by decide) fun _ _ here => healthy here.2
  rw [runAlertChecks_eq_runChecks, together, unraised_wantedAlerts]
  simp only [AlertCheck.all, AlertCheck.summary, List.map_cons, List.map_nil, List.flatMap_cons,
    List.flatMap_nil, outcome_of_table first checkable.table,
    outcome_of_table second checkable.table, outcome_of_table third checkable.table]
  simp [AlertSummary.total]

/-! ## What is open after a run -/

/-- The open alerts of a kind for a job, or for none. -/
def openAbout (book : Book) (kind : AlertType) (jobId : Option String) : List AlertRow :=
  (book.alerts.filter (·.acknowledged == 0)).filter (·.target == (Named.name kind, jobId))

/-- What a run of the checks comes to where the tables can be read. -/
structure AlertRun (book : Book) (config : MonitorConfig) (now : Instant) (stuck : List StuckJob)
    (active : Nat) (debt : Int) (summary : AlertSummary) (after : Book) : Prop where
  stuckTold : summary.stuckJobsFound = stuck.length
  /-- One open alert is about each stuck job. It names the user of the job, or it was there before
  the run. -/
  stuckOpen : ∀ job ∈ stuck, ∃ row, after.openAbout .stuckJob (some job.jobId) = [row] ∧
    (row.userId = some job.userId ∨ row ∈ book.alerts)
  capacityTold : summary.capacityWarning = config.isOverLevel active
  capacityOpen : summary.capacityWarning → ∃ row, after.openAbout .capacityWarning none = [row]
  debtTold : summary.debtWarning ↔ config.debtWarningThresholdSats <
    Amount.total ((book.users.map (·.debtSats)).filter (0 < ·))
  debtOpen : summary.debtWarning → ∃ row, after.openAbout .debtWarning none = [row]
  /-- Rows are added for wanted alerts that were not open, and nothing else is written. -/
  added : ∃ rows, after = { book with
      alerts := book.alerts ++ rows, lastAlert := book.lastAlert + rows.length } ∧
    summary.alertsCreated = rows.length ∧
    ∀ row ∈ rows, row.target ∉ book.openTargets ∧
      ∃ alert ∈ wantedAlerts config stuck active debt, row = alert.row now row.id

private theorem openAbout_withRaised (single : book.openTargets.Nodup) {alerts : List NewAlert}
    {alert : NewAlert} (member : alert ∈ alerts) :
    ∃ row, (book.withRaised now (unraised book.openTargets alerts)).openAbout
      alert.alertType alert.jobId = [row] := by
  have targets : (book.withRaised now (unraised book.openTargets alerts)).openTargets = _ :=
    openTargets_withRaised _
  have once := nodup_unraised alerts single
  have taken : alert.target ∈ book.openTargets ++ _ := target_mem_of_mem member
  rw [← targets] at once taken
  exact filter_eq_singleton once taken

/-- What is open about something stands in the book and has this target. -/
private theorem mem_openAbout {kind : AlertType} {jobId : Option String} {row : AlertRow}
    (member : row ∈ book.openAbout kind jobId) :
    row ∈ book.alerts ∧ row.target = (Named.name kind, jobId) := by
  obtain ⟨isOpen, same⟩ := List.mem_filter.mp member
  exact ⟨(List.mem_filter.mp isOpen).1, eq_of_beq same⟩

private theorem outstandingDebt_eq_ok (h : book.outstandingDebt = .ok debt) :
    debt = Amount.total ((book.users.map (·.debtSats)).filter (0 < ·)) := by
  simp only [outstandingDebt, bind_eq_ok_iff, throw_bind, guard_eq_ok_iff, pure_eq_ok_iff] at h
  obtain ⟨_, _, _, _, rfl⟩ := h
  rfl

/-- The user of a stuck job is that of the job with this id. -/
theorem userId_of_findStuck (keyed : book.JobsKeyed) {thresholds : StalenessThresholds}
    (found : book.findStuck thresholds now = .ok stuck) {job : StuckJob} (member : job ∈ stuck)
    {row : JobRow} (listed : row ∈ book.jobs) (same : row.id = job.jobId) :
    row.userId = job.userId := by
  obtain ⟨other, present, id, user⟩ := findStuck_eq_ok found member
  obtain rfl := keyed.eq_of_id listed present (same.trans id.symm)
  exact user

/-- A new alert about a stuck job names its user. -/
private theorem userId_of_mem_freshRows (keyed : book.JobsKeyed)
    (checkable : book.Checkable config now stuck active debt) {job : StuckJob}
    (member : job ∈ stuck) {row : AlertRow} {last : Nat}
    (fresh : row ∈ freshRows now last
      (unraised book.openTargets (wantedAlerts config stuck active debt)))
    (about : row.target = (Named.name AlertType.stuckJob, some job.jobId)) :
    row.userId = some job.userId := by
  obtain ⟨alert, raised, here⟩ := mem_freshRows fresh
  rw [here] at about ⊢
  obtain ⟨kind, jobId⟩ := Prod.mk.inj about
  obtain ⟨other, listed, rfl⟩ :=
    exists_of_mem_wantedAlerts (mem_of_mem_unraised raised) (name_inj kind)
  obtain ⟨row, present, id, user⟩ := findStuck_eq_ok checkable.stuck listed
  have same := userId_of_findStuck keyed checkable.stuck member present
    (id.trans (Option.some.inj jobId))
  exact congrArg some (user.symm.trans same)

/-- A run where the tables can be read comes to what it should. -/
theorem alertRun_of_checkable (keyed : book.JobsKeyed) (single : book.openTargets.Nodup)
    (checkable : book.Checkable config now stuck active debt) :
    ∃ summary, (book.runAlertChecks config now).1 = some summary ∧
      AlertRun book config now stuck active debt summary (book.runAlertChecks config now).2 := by
  rw [runAlertChecks_of_checkable checkable]
  refine ⟨_, rfl, ?_⟩
  constructor
  case stuckTold => rfl
  case capacityTold => rfl
  case debtTold => rw [decide_eq_true_eq, outstandingDebt_eq_ok checkable.debt]
  case stuckOpen =>
    intro job member
    have wanted : stuckAlert job ∈ wantedAlerts config stuck active debt :=
      List.mem_append_left _ (List.mem_map_of_mem member)
    obtain ⟨row, only⟩ : ∃ row, (book.withRaised now _).openAbout .stuckJob (some job.jobId) =
      [row] := openAbout_withRaised single wanted
    obtain ⟨present, about⟩ := mem_openAbout (only ▸ List.mem_singleton_self row)
    refine ⟨row, only, ?_⟩
    rcases List.mem_append.mp present with old | new
    · exact .inr old
    · exact .inl (userId_of_mem_freshRows keyed checkable member new about)
  case capacityOpen =>
    intro exceeds
    have wanted : capacityAlert config active ∈ wantedAlerts config stuck active debt := by
      simp [wantedAlerts, show config.isOverLevel active = true from exceeds]
    exact openAbout_withRaised single wanted
  case debtOpen =>
    intro exceeds
    have wanted : debtAlert config debt ∈ wantedAlerts config stuck active debt := by
      simp [wantedAlerts, of_decide_eq_true exceeds]
    exact openAbout_withRaised single wanted
  case added =>
    let fresh := unraised book.openTargets (wantedAlerts config stuck active debt)
    refine ⟨freshRows now book.lastAlert fresh, ?_, ?_, ?_⟩
    · rw [length_freshRows, withRaised]
    · rw [length_freshRows]
    · intro row member
      obtain ⟨alert, raised, here⟩ := mem_freshRows member
      refine ⟨?_, alert, mem_of_mem_unraised raised, here⟩
      have target : row.target = alert.target := by
        rw [here]
        rfl
      rw [target]
      exact not_known_of_mem_unraised raised single

/-- Another run at the same time finds the same and adds nothing. -/
theorem runAlertChecks_again (checkable : book.Checkable config now stuck active debt) :
    (book.runAlertChecks config now).2.runAlertChecks config now =
      ((book.runAlertChecks config now).1.map ({ · with alertsCreated := 0 }),
        (book.runAlertChecks config now).2) := by
  have nothing : unraised
      (book.withRaised now
        (unraised book.openTargets (wantedAlerts config stuck active debt))).openTargets
      (wantedAlerts config stuck active debt) = [] := by
    refine unraised_eq_nil fun alert member => ?_
    rw [openTargets_withRaised]
    exact target_mem_of_mem member
  rw [runAlertChecks_of_checkable checkable,
    runAlertChecks_of_checkable (checkable.withRaised _), nothing, withRaised_nil]
  rfl

/-! ## Alerts name the users of their jobs -/

/-- The id and the user of a job. -/
def owned (row : JobRow) : String × String :=
  (row.id, row.userId)

private theorem Quiet.retains_owned (step : Quiet book after) : Retains owned book after := by
  cases step with
  | userAdded => exact .refl owned book
  | jobAdded id request now =>
    rw [Retains, Book.jobAdded, withMove, List.map_append]
    exact List.prefix_append _ _
  | moved _ _ law now =>
    exact .of_updateJobs rfl fun row =>
      Prod.ext (law.sameTerms now row).id (law.sameTerms now row).userId
  | coded => exact .of_updateJobs rfl fun _ => rfl

/-- Jobs do not change hands. -/
private theorem Change.retains_owned {deed : Deed} (change : Change book deed after) :
    Retains owned book after := by
  cases change with
  | quiet steps =>
    induction steps with
    | refl => exact .refl owned book
    | tail _ last ih => exact ih.trans last.retains_owned
  | invoiced => exact .of_updateJobs rfl fun _ => rfl
  | settled => exact .of_updateJobs rfl fun _ => rfl
  | writtenOff => exact .of_updateJobs rfl fun _ => rfl

/-- Every alert about a stuck job names a job of the book and its user. -/
def NamesUsers (book : Book) : Prop :=
  ∀ row ∈ book.alerts, row.alertType = Named.name AlertType.stuckJob →
    ∃ job ∈ book.jobs, row.jobId = some job.id ∧ row.userId = some job.userId

/-- What the first check raises is about a job of the book. -/
private theorem exists_stuck_of_mem_outcome {alert : NewAlert}
    (raised : alert ∈ (AlertCheck.stuck.outcome book config now).2) :
    ∃ job, (∃ row ∈ book.jobs, row.id = job.jobId ∧ row.userId = job.userId) ∧
      alert = stuckAlert job := by
  rcases outcome_cases .stuck book config now with
    ⟨_, failed | ends⟩ | ⟨summary, wanted, found, outcome⟩
  · rw [failed] at raised
    cases raised
  · rw [ends] at raised
    cases raised
  · rw [outcome] at raised
    simp only [AlertCheck.findings, bind_eq_ok_iff, pure_eq_ok_iff, mapError_eq_ok_iff] at found
    obtain ⟨jobs, search, found⟩ := found
    cases found
    obtain ⟨job, listed, rfl⟩ := List.mem_map.mp (mem_of_mem_unraised raised)
    exact ⟨job, findStuck_eq_ok search listed, rfl⟩

/-- What is raised about stuck jobs names jobs of the book and their users. -/
theorem NamesUsers.check (names : book.NamesUsers) (config : MonitorConfig) (now : Instant) :
    (book.runAlertChecks config now).2.NamesUsers := by
  rw [snd_runAlertChecks]
  intro row present stuckKind
  rcases List.mem_append.mp present with old | new
  · exact names row old stuckKind
  · obtain ⟨alert, raised, here⟩ := mem_freshRows new
    obtain ⟨check, _, raised⟩ := List.mem_flatMap.mp raised
    rw [here] at stuckKind ⊢
    obtain rfl : check = .stuck :=
      kind_inj (((outcome_spec check).2 alert raised).symm.trans (name_inj stuckKind))
    obtain ⟨job, listed, rfl⟩ := exists_stuck_of_mem_outcome raised
    obtain ⟨row, present, id, user⟩ := listed
    exact ⟨row, present, congrArg some id.symm, congrArg some user.symm⟩

private theorem NamesUsers.attend (names : book.NamesUsers) (intact : book.Intact) (duty : Duty) :
    (book.attend duty).2.NamesUsers := by
  cases duty with
  | operate operation =>
    have change := perform_change intact.jobsKeyed operation
    intro row present stuckKind
    have member : row ∈ book.alerts := change.sameAlerts.alerts ▸ present
    obtain ⟨job, listed, id, user⟩ := names row member stuckKind
    obtain ⟨other, there, same⟩ := change.retains_owned.mem listed
    obtain ⟨sameId, sameUser⟩ := Prod.mk.inj same
    exact ⟨other, there, id.trans (congrArg some sameId.symm),
      user.trans (congrArg some sameUser.symm)⟩
  | check config now => exact names.check config now
  | acknowledge id =>
    rw [attend_acknowledge intact.tables]
    intro row present stuckKind
    obtain ⟨old, member, rfl⟩ := List.mem_map.mp present
    have same : (closedRow id old).alertType = old.alertType ∧
        (closedRow id old).jobId = old.jobId ∧ (closedRow id old).userId = old.userId := by
      unfold closedRow
      split <;> exact ⟨rfl, rfl, rfl⟩
    rw [same.2.1, same.2.2]
    exact names old member (same.1 ▸ stuckKind)

private theorem namesUsers_watch (duties : List Duty) :
    (Book.empty.watch duties).2.Intact ∧ (Book.empty.watch duties).2.NamesUsers :=
  watch_keeps (motive := fun book => book.Intact ∧ book.NamesUsers)
    (fun known (_ : True) => ⟨known.1.attend _, known.2.attend known.1 _⟩) ⟨intact_empty, nofun⟩
    fun _ _ => trivial

/-! ## Every run -/

/-- Let the tables of a book be readable, its jobs be keyed by their ids, and of no target two
alerts be open. Then a run of the checks raises what is wanted and not open, after which each stuck
job has one open alert, and another run at the same time finds the same and writes nothing. In a
book that operations, checks and acknowledgements lead to, the alert names the user of the job. -/
theorem runAlertChecks_complete (book : Book) (config : MonitorConfig) (now : Instant)
    (stuck : List StuckJob) (active : Nat) (debt : Int) (keyed : book.JobsKeyed)
    (single : book.openTargets.Nodup)
    (checkable : book.Checkable config now stuck active debt) :
    let after := (book.runAlertChecks config now).2
    ∃ summary, (book.runAlertChecks config now).1 = some summary ∧
      AlertRun book config now stuck active debt summary after ∧
      after.runAlertChecks config now = (some { summary with alertsCreated := 0 }, after) ∧
      ∀ duties : List Duty, book = (Book.empty.watch duties).2 → ∀ job ∈ stuck,
        ∃ row, after.openAbout .stuckJob (some job.jobId) = [row] ∧
          row.userId = some job.userId := by
  obtain ⟨summary, told, run⟩ := alertRun_of_checkable keyed single checkable
  have again := runAlertChecks_again checkable
  rw [told] at again
  refine ⟨summary, told, run, again, ?_⟩
  rintro duties reached job member
  obtain ⟨row, only, named | old⟩ := run.stuckOpen job member
  · exact ⟨row, only, named⟩
  · have names : book.NamesUsers := reached ▸ (namesUsers_watch duties).2
    obtain ⟨_, about⟩ := mem_openAbout (only ▸ List.mem_singleton_self row)
    obtain ⟨kind, jobId⟩ := Prod.mk.inj about
    obtain ⟨owner, listed, id, user⟩ := names row old kind
    have same := userId_of_findStuck keyed checkable.stuck member listed
      (Option.some.inj (id.symm.trans jobId))
    exact ⟨row, only, user.trans (congrArg some same)⟩

/-- A job is dispatched and stands for two hours and a minute, and a user owes too much. -/
def dispatchedDuties : List Duty :=
  [.operate (.createUser "u" none "active" ⟨1767139200, 0⟩),
   .operate (.createJob "j" ⟨"u", "s", .cancel, .scheduled, none⟩ ⟨1767139200, 0⟩),
   .operate (.claim ["j"] ⟨1767218340, 0⟩),
   .operate (.attachInvoice "j" 100001 "i" ⟨1767218340, 0⟩)]

/-- The job of `dispatchedRow` as a stuck one. -/
def dispatchedStuck (userId : String) (since : Instant) (minutesStuck : Int) : StuckJob :=
  { jobId := "j", userId, serviceId := "s", status := .dispatched, statusUpdatedAt := since
    minutesStuck }

/-- Both are told of once. -/
theorem runAlertChecks_dispatched :
    let book := (Book.empty.watch dispatchedDuties).2
    let after := (book.runAlertChecks {} ⟨1767225600, 0⟩).2
    (∃ row, after.openAbout .stuckJob (some "j") = [row] ∧ row.userId = some "u") ∧
      (∃ row, after.openAbout .debtWarning none = [row]) ∧
      (after.runAlertChecks {} ⟨1767225600, 0⟩).2 = after := by
  intro book after
  have checkable : book.Checkable {} ⟨1767225600, 0⟩
      [dispatchedStuck "u" ⟨1767218340, 0⟩ 121] 1 100001 :=
    ⟨by decide +kernel, by decide +kernel, by decide +kernel, by decide +kernel⟩
  obtain ⟨summary, _, run, again, named⟩ := runAlertChecks_complete book {} ⟨1767225600, 0⟩
    [dispatchedStuck "u" ⟨1767218340, 0⟩ 121] 1 100001
    (namesUsers_watch dispatchedDuties).1.jobsKeyed (by decide +kernel) checkable
  refine ⟨named dispatchedDuties rfl _ List.mem_cons_self, run.debtOpen ?_, ?_⟩
  · exact run.debtTold.mpr (by decide +kernel)
  · rw [again]

/-- Where an open alert about a job names another user, no alert is raised that names the user of
the job. -/
theorem runAlertChecks_other_user :
    let book : Book :=
      { users := [⟨"u", none, 0, "active", "2025-12-31T00:00:00.000Z"⟩,
          ⟨"v", none, 0, "active", "2025-12-31T00:00:00.000Z"⟩]
        jobs := [{ dispatchedRow "2025-12-31T20:00:00.000Z" with userId := "v" }]
        alerts := [(stuckAlert (dispatchedStuck "u" ⟨1767211200, 0⟩ 240)).row ⟨1767225600, 0⟩ 1]
        lastAlert := 1 }
    let job := dispatchedStuck "v" ⟨1767211200, 0⟩ 240
    book.JobsKeyed ∧ book.openTargets.Nodup ∧ book.Checkable {} ⟨1767225600, 0⟩ [job] 2 0 ∧
      (book.runAlertChecks {} ⟨1767225600, 0⟩).2 = book ∧
      ∀ row ∈ book.alerts, row.userId ≠ some job.userId := by
  refine ⟨List.nodup_singleton _, by decide +kernel, ⟨?_, ?_, ?_, ?_⟩, ?_, ?_⟩ <;> decide +kernel

end Book

end JobRelay
