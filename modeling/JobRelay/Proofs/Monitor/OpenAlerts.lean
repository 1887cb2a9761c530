import JobRelay.Monitor.Alerts
import JobRelay.Proofs.Session.Readback

/-! # Open alerts

Checks raise alerts and operators close them, in any order and between any other operations. Of one
kind there is never more than one open alert for a job, nor more than one that names no job; an
alert that is closed stays as it is; and each alert is closed by one acknowledgement.
-/

namespace JobRelay

/-- What is done to the book while it is watched. -/
inductive Duty where
  | operate (operation : Operation)
  | check (config : MonitorConfig) (now : Instant)
  | acknowledge (id : Int)
deriving DecidableEq, Repr

/-- What comes of a duty. -/
inductive DutyResult where
  | operated (result : Except Refusal Reply)
  /-- Without a summary if the run breaks off. -/
  | checked (summary : Option AlertSummary)
  | acknowledged (result : Except StoreError Bool)
deriving DecidableEq, Repr

/-- A duty with its result. -/
structure DutyEvent where
  duty : Duty
  result : DutyResult
deriving DecidableEq, Repr

/-- The number whose open alert was closed. -/
def DutyEvent.closed? : DutyEvent → Option Int
  | ⟨.acknowledge id, .acknowledged (.ok true)⟩ => some id
  | _ => none

/-- The numbers whose open alerts were closed, the first one first. -/
def closedIds (events : List DutyEvent) : List Int :=
  events.filterMap DutyEvent.closed?

/-- What an alert is about: its kind, and its job if it names one. -/
def AlertRow.target (row : AlertRow) : String × Option String :=
  (row.alertType, row.jobId)

namespace Book

def attend (book : Book) : Duty → DutyResult × Book
  | .operate operation =>
    let (result, next) := book.perform operation
    (.operated result, next)
  | .check config now =>
    let (summary, next) := book.runAlertChecks config now
    (.checked summary, next)
  | .acknowledge id =>
    let (result, next) := book.atomically (·.acknowledge id)
    (.acknowledged result, next)

/-- Does duties one after the other and tells what happened, the first event first. -/
def watch (book : Book) : List Duty → List DutyEvent × Book
  | [] => ([], book)
  | duty :: rest =>
    let (result, next) := book.attend duty
    let (events, last) := next.watch rest
    (⟨duty, result⟩ :: events, last)

variable {book after : Book}

/-- What every duty of a kind keeps is kept by doing such duties one after the other. -/
theorem watch_keeps {motive : Book → Prop} {allowed : Duty → Prop}
    (each : ∀ {book : Book} {duty : Duty}, motive book → allowed duty → motive (book.attend duty).2)
    (holds : motive book) {duties : List Duty} (all : ∀ duty ∈ duties, allowed duty) :
    motive (book.watch duties).2 := by
  induction duties generalizing book with
  | nil => exact holds
  | cons duty rest ih =>
    exact ih (each holds (all duty List.mem_cons_self)) fun other member =>
      all other (List.mem_cons_of_mem _ member)

private theorem watch_append (book : Book) (first second : List Duty) :
    book.watch (first ++ second) =
      ((book.watch first).1 ++ ((book.watch first).2.watch second).1,
        ((book.watch first).2.watch second).2) := by
  induction first generalizing book with
  | nil => rfl
  | cons duty rest ih => simp only [List.cons_append, watch, ih]

/-! ## Steps of the alerts -/

/-- The row of an alert after the open one of a number was closed. -/
def closedRow (id : Int) (row : AlertRow) : AlertRow :=
  if (row.id : Int) = id ∧ row.acknowledged = 0 then { row with acknowledged := 1 } else row

/-- One alert is raised or closed. -/
inductive AlertStep : Book → Book → Prop
  | raised {book : Book} (alert : NewAlert) (now : Instant)
      (unlike : book.hasOpenAlert alert.alertType alert.jobId = false) :
      AlertStep book { book with
        alerts := book.alerts ++ [alert.row now (book.lastAlert + 1)]
        lastAlert := book.lastAlert + 1 }
  | closed {book : Book} (id : Int) :
      AlertStep book { book with alerts := book.alerts.map (closedRow id) }

/-- Alerts are raised and closed, and nothing else is written. -/
def AlertSteps : Book → Book → Prop :=
  Relation.ReflTransGen AlertStep

/-! ## What checks keep -/

section Checks

variable {motive : Book → Prop} {now : Instant}
  (raised : ∀ {book : Book} (alert : NewAlert),
    book.hasOpenAlert alert.alertType alert.jobId = false → motive book →
      motive { book with
        alerts := book.alerts ++ [alert.row now (book.lastAlert + 1)]
        lastAlert := book.lastAlert + 1 })
include raised

private theorem raiseAlert_keeps {alert : NewAlert} {added : Bool}
    (h : book.raiseAlert alert now = .ok (added, after)) (holds : motive book) : motive after := by
  simp only [raiseAlert, bind_eq_ok_iff] at h
  obtain ⟨_, _, h⟩ := h
  split at h <;> rename_i known <;> cases pure_eq_ok_iff.mp h
  · exact holds
  · exact raised alert (by simpa using known) holds

private theorem raiseAll_keeps (alerts : List NewAlert) (holds : motive book) :
    motive (book.raiseAll now alerts).2 := by
  induction alerts generalizing book with
  | nil => exact holds
  | cons alert rest ih =>
    unfold raiseAll
    split
    · exact holds
    · rename_i added
      exact ih (raiseAlert_keeps raised added holds)

private theorem checkStuck_keeps (config : MonitorConfig) (holds : motive book) :
    motive (book.checkStuck config now).2 := by
  unfold checkStuck
  split
  · exact holds
  · rename_i stuck _
    have kept := raiseAll_keeps raised (stuck.map stuckAlert) holds
    split <;> rename_i run <;> rw [run] at kept <;> exact kept

/-- A check that raises one alert keeps what raising it keeps. -/
private theorem raiseOne_keeps {α : Type} (alert : NewAlert) (failed : α) (summary : Bool → α)
    (holds : motive book) :
    motive
      (match book.raiseAlert alert now with
      | .error _ => (failed, book)
      | .ok (added, next) => (summary added, next) : α × Book).2 := by
  split
  · exact holds
  · rename_i added
    exact raiseAlert_keeps raised added holds

private theorem checkCapacity_keeps (config : MonitorConfig) (holds : motive book) :
    motive (book.checkCapacity config now).2 := by
  unfold checkCapacity
  split
  · exact holds
  · split
    · exact raiseOne_keeps raised _ _ _ holds
    · exact holds

private theorem checkDebt_keeps (config : MonitorConfig) (holds : motive book) :
    motive (book.checkDebt config now).2 := by
  unfold checkDebt
  split
  · exact holds
  · exact holds
  · split
    · exact raiseOne_keeps raised _ _ _ holds
    · exact holds

/-- What is kept when an alert is raised is kept by the checks, whatever they find. -/
theorem runAlertChecks_keeps (config : MonitorConfig) (holds : motive book) :
    motive (book.runAlertChecks config now).2 :=
  checkDebt_keeps raised config (checkCapacity_keeps raised config
    (checkStuck_keeps raised config holds))

end Checks

/-- Whatever the checks find, they raise alerts and write nothing else. -/
theorem alertSteps_runAlertChecks (book : Book) (config : MonitorConfig) (now : Instant) :
    AlertSteps book (book.runAlertChecks config now).2 :=
  runAlertChecks_keeps (motive := AlertSteps book)
    (fun alert unlike steps => steps.tail (.raised alert now unlike)) config .refl

def hasOpen (book : Book) (id : Int) : Bool :=
  book.alerts.any fun row => (row.id : Int) == id && row.acknowledged == 0

private theorem hasOpen_iff {id : Int} :
    book.hasOpen id ↔ ∃ row ∈ book.alerts, (row.id : Int) = id ∧ row.acknowledged = 0 := by
  simp [hasOpen]

/-- An acknowledgement closes the open alert of its number, if there is one. -/
theorem attend_acknowledge (tables : book.missing = []) (id : Int) :
    book.attend (.acknowledge id) =
      (.acknowledged (.ok (book.hasOpen id)),
        { book with alerts := book.alerts.map (closedRow id) }) := by
  have result : book.acknowledge id =
      .ok (book.hasOpen id, { book with alerts := book.alerts.map (closedRow id) }) := by
    have table : book.need .alerts = .ok () := by simp [need, tables]
    refine (bind_of_eq_ok table).trans ?_
    cases known : book.hasOpen id with
    | true =>
      rw [hasOpen] at known
      rw [known]
      rfl
    | false =>
      have unchanged : book.alerts.map (closedRow id) = book.alerts := by
        refine (List.map_congr_left fun row member => if_neg fun here => ?_).trans (List.map_id' _)
        rw [hasOpen_iff.mpr ⟨row, member, here⟩] at known
        cases known
      rw [hasOpen] at known
      rw [known, unchanged]
      rfl
  simp only [attend, atomically, result]

/-! ## One duty -/

theorem AlertSteps.jobs_eq (steps : AlertSteps book after) : after.jobs = book.jobs :=
  steps_eq Book.jobs (fun step => by cases step <;> rfl) steps

/-- Raising and closing alerts leaves the jobs fit for further operations. -/
private theorem Intact.alertSteps (intact : book.Intact) (steps : AlertSteps book after) :
    after.Intact := by
  have jobs := steps.jobs_eq
  have missing : after.missing = book.missing :=
    steps_eq Book.missing (fun step => by cases step <;> rfl) steps
  refine ⟨missing.trans intact.tables, ?_, ?_, ?_⟩
  · rw [JobsKeyed, jobs]
    exact intact.jobsKeyed
  · rw [Readable, jobs]
    exact intact.readable
  · rw [InvoicesKeyed, jobs]
    exact intact.invoicesKeyed

/-- Two books with the same alerts. -/
structure SameAlerts (book after : Book) : Prop where
  alerts : after.alerts = book.alerts
  lastAlert : after.lastAlert = book.lastAlert

theorem Change.sameAlerts {deed : Deed} (change : Change book deed after) :
    SameAlerts book after := by
  cases change with
  | quiet steps =>
    exact ⟨steps_eq Book.alerts (fun step => by cases step <;> rfl) steps,
      steps_eq Book.lastAlert (fun step => by cases step <;> rfl) steps⟩
  | invoiced => exact ⟨rfl, rfl⟩
  | settled => exact ⟨rfl, rfl⟩
  | writtenOff => exact ⟨rfl, rfl⟩

/-- Checks and acknowledgements raise and close alerts; operations leave the alerts alone. -/
theorem attend_cases (intact : book.Intact) (duty : Duty) :
    SameAlerts book (book.attend duty).2 ∧ (book.attend duty).2.Intact ∨
      AlertSteps book (book.attend duty).2 := by
  cases duty with
  | operate operation =>
    exact .inl ⟨(perform_change intact.jobsKeyed operation).sameAlerts, intact.perform operation⟩
  | check config now => exact .inr (alertSteps_runAlertChecks book config now)
  | acknowledge id =>
    rw [attend_acknowledge intact.tables]
    exact .inr (.single (.closed id))

theorem Intact.attend (intact : book.Intact) (duty : Duty) : (book.attend duty).2.Intact := by
  rcases attend_cases intact duty with ⟨_, kept⟩ | steps
  · exact kept
  · exact intact.alertSteps steps

/-! ## One open alert for each target -/

private theorem target_closedRow (id : Int) (row : AlertRow) :
    (closedRow id row).target = row.target := by
  unfold closedRow
  split <;> rfl

private theorem id_closedRow (id : Int) (row : AlertRow) : (closedRow id row).id = row.id := by
  unfold closedRow
  split <;> rfl

private theorem acknowledged_of_closedRow {id : Int} {row : AlertRow}
    (isOpen : (closedRow id row).acknowledged = 0) : row.acknowledged = 0 := by
  unfold closedRow at isOpen
  split at isOpen
  · cases isOpen
  · exact isOpen

/-- Alerts are numbered in order, and no two open ones have the same target. -/
structure Singular (book : Book) : Prop where
  ordered : book.alerts.Pairwise (·.id < ·.id)
  numbered : ∀ row ∈ book.alerts, row.id ≤ book.lastAlert
  single : ((book.alerts.filter (·.acknowledged == 0)).map AlertRow.target).Nodup

private theorem singular_empty : Singular .empty := ⟨.nil, nofun, .nil⟩

private theorem Singular.eq_of_id (singular : book.Singular) {row other : AlertRow}
    (member : row ∈ book.alerts) (listed : other ∈ book.alerts) (same : row.id = other.id) :
    row = other := by
  have numbers : (book.alerts.map (·.id)).Nodup :=
    List.pairwise_map.mpr (singular.ordered.imp Nat.ne_of_lt)
  exact List.inj_on_of_nodup_map numbers member listed same

private theorem Singular.raised (singular : book.Singular) {alert : NewAlert}
    (unlike : book.hasOpenAlert alert.alertType alert.jobId = false) (now : Instant) :
    Singular { book with
      alerts := book.alerts ++ [alert.row now (book.lastAlert + 1)]
      lastAlert := book.lastAlert + 1 } where
  ordered := by
    refine List.pairwise_append.mpr ⟨singular.ordered, List.pairwise_singleton _ _, ?_⟩
    intro row member new last
    obtain rfl := List.mem_singleton.mp last
    exact Nat.lt_succ_of_le (singular.numbered row member)
  numbered row present := by
    rcases List.mem_append.mp present with old | new
    · exact Nat.le_succ_of_le (singular.numbered row old)
    · obtain rfl := List.mem_singleton.mp new
      exact Nat.le_refl _
  single := by
    have fresh : (alert.row now (book.lastAlert + 1)).target ∉
        (book.alerts.filter (·.acknowledged == 0)).map AlertRow.target := by
      rintro taken
      obtain ⟨row, listed, same⟩ := List.mem_map.mp taken
      obtain ⟨member, isOpen⟩ := List.mem_filter.mp listed
      obtain ⟨kind, job⟩ := Prod.mk.inj same
      refine List.any_eq_false.mp unlike row member ?_
      simpa [NewAlert.row] using ⟨⟨kind, by simpa using isOpen⟩, job⟩
    rw [List.filter_append, List.map_append]
    show (_ ++ [(alert.row now (book.lastAlert + 1)).target]).Nodup
    rw [← List.concat_eq_append]
    exact singular.single.concat fresh

private theorem Singular.closed (singular : book.Singular) (id : Int) :
    Singular { book with alerts := book.alerts.map (closedRow id) } where
  ordered := by
    refine List.pairwise_map.mpr (singular.ordered.imp fun less => ?_)
    rwa [id_closedRow, id_closedRow]
  numbered row present := by
    obtain ⟨old, member, rfl⟩ := List.mem_map.mp present
    rw [id_closedRow]
    exact singular.numbered old member
  single := by
    have fewer : (book.alerts.filter ((·.acknowledged == 0) ∘ closedRow id)).Sublist
        (book.alerts.filter (·.acknowledged == 0)) :=
      List.monotone_filter_right _ fun row isOpen => by
        simpa using acknowledged_of_closedRow (by simpa using isOpen)
    have targets : AlertRow.target ∘ closedRow id = AlertRow.target :=
      funext (target_closedRow id)
    rw [List.filter_map, List.map_map, targets]
    exact (fewer.map _).nodup singular.single

/-! ## Closed alerts -/

/-- Closed alerts stay in the book as they are. -/
def KeepsClosed (book after : Book) : Prop :=
  ∀ row ∈ book.alerts, row.acknowledged ≠ 0 → row ∈ after.alerts

private theorem KeepsClosed.trans {last : Book} (first : KeepsClosed book after)
    (second : KeepsClosed after last) : KeepsClosed book last :=
  fun row member handled => second row (first row member handled) handled

private theorem AlertStep.keepsClosed (step : AlertStep book after) : KeepsClosed book after := by
  intro row member handled
  cases step with
  | raised => exact List.mem_append_left _ member
  | closed id => exact List.mem_map.mpr ⟨row, member, if_neg fun here => handled here.2⟩

private theorem AlertSteps.keeps (singular : book.Singular) (steps : AlertSteps book after) :
    after.Singular ∧ KeepsClosed book after := by
  induction steps with
  | refl => exact ⟨singular, fun row member _ => member⟩
  | tail _ last ih =>
    refine ⟨?_, ih.2.trans last.keepsClosed⟩
    cases last with
    | raised alert now unlike => exact ih.1.raised unlike now
    | closed id => exact ih.1.closed id

/-- What every duty keeps of the alerts. -/
theorem attend_keeps (intact : book.Intact) (singular : book.Singular) (duty : Duty) :
    (book.attend duty).2.Singular ∧ KeepsClosed book (book.attend duty).2 := by
  rcases attend_cases intact duty with ⟨same, _⟩ | steps
  · refine ⟨⟨?_, ?_, ?_⟩, ?_⟩
    · rw [same.alerts]
      exact singular.ordered
    · rw [same.alerts, same.lastAlert]
      exact singular.numbered
    · rw [same.alerts]
      exact singular.single
    · rw [KeepsClosed, same.alerts]
      exact fun row member _ => member
  · exact steps.keeps singular

/-- A number is told to be closed when its open alert has been closed. -/
private theorem closed?_attend (intact : book.Intact) {duty : Duty} {id : Int}
    (closes : DutyEvent.closed? ⟨duty, (book.attend duty).1⟩ = some id) :
    book.hasOpen id ∧ ∃ row ∈ (book.attend duty).2.alerts, (row.id : Int) = id ∧
      row.acknowledged ≠ 0 := by
  cases duty with
  | operate => cases closes
  | check => cases closes
  | acknowledge number =>
    rw [attend_acknowledge intact.tables] at closes ⊢
    cases known : book.hasOpen number with
    | false =>
      rw [known] at closes
      cases closes
    | true =>
      rw [known] at closes
      cases closes
      obtain ⟨row, member, here⟩ := hasOpen_iff.mp known
      refine ⟨known, closedRow id row, List.mem_map_of_mem member, ?_, ?_⟩
      · rw [id_closedRow]
        exact here.1
      · simp [closedRow, here]

/-! ## Every run -/

/-- What holds of a book that has been watched from the start: of no target two alerts are open, an
acknowledgement is answered by whether its number has an open alert, and so far each number was
closed at most once. -/
structure AlertsSingle (events : List DutyEvent) (book : Book) : Prop where
  single : ((book.alerts.filter (·.acknowledged == 0)).map AlertRow.target).Nodup
  answered : ∀ id, (book.attend (.acknowledge id)).1 = .acknowledged (.ok (book.hasOpen id))
  closedOnce : (closedIds events).Nodup
  closed : ∀ id ∈ closedIds events, book.hasOpen id = false ∧
    ∃ row ∈ book.alerts, (row.id : Int) = id ∧ row.acknowledged ≠ 0

/-- What is known of every run from the empty book. -/
structure WatchInvariant (events : List DutyEvent) (book : Book) : Prop where
  intact : book.Intact
  singular : book.Singular
  closedOnce : (closedIds events).Nodup
  closed : ∀ id ∈ closedIds events,
    ∃ row ∈ book.alerts, (row.id : Int) = id ∧ row.acknowledged ≠ 0

private theorem WatchInvariant.hasOpen_eq {events : List DutyEvent}
    (known : WatchInvariant events book) {id : Int} (closed : id ∈ closedIds events) :
    book.hasOpen id = false := by
  rw [Bool.eq_false_iff]
  intro reopened
  obtain ⟨row, member, here, handled⟩ := known.closed id closed
  obtain ⟨other, listed, same, isOpen⟩ := hasOpen_iff.mp reopened
  obtain rfl := known.singular.eq_of_id member listed (Int.ofNat.inj (here.trans same.symm))
  exact handled isOpen

private theorem WatchInvariant.attend {events : List DutyEvent} (known : WatchInvariant events book)
    (duty : Duty) :
    WatchInvariant (events ++ [⟨duty, (book.attend duty).1⟩]) (book.attend duty).2 := by
  obtain ⟨singular, kept⟩ := attend_keeps known.intact known.singular duty
  have numbers : closedIds (events ++ [⟨duty, (book.attend duty).1⟩]) =
      closedIds events ++ (DutyEvent.closed? ⟨duty, (book.attend duty).1⟩).toList := by
    rw [closedIds, List.filterMap_append, closedIds]
    cases closes : DutyEvent.closed? ⟨duty, (book.attend duty).1⟩ <;> simp [closes]
  have still : ∀ id ∈ closedIds events,
      ∃ row ∈ (book.attend duty).2.alerts, (row.id : Int) = id ∧ row.acknowledged ≠ 0 := by
    intro id closed
    obtain ⟨row, member, here, handled⟩ := known.closed id closed
    exact ⟨row, kept row member handled, here, handled⟩
  refine ⟨known.intact.attend duty, singular, ?_, ?_⟩ <;> rw [numbers]
  · cases closes : DutyEvent.closed? ⟨duty, (book.attend duty).1⟩ with
    | none => simpa using known.closedOnce
    | some id =>
      have fresh : id ∉ closedIds events := fun closed => by
        have reopened := (closed?_attend known.intact closes).1
        rw [known.hasOpen_eq closed] at reopened
        cases reopened
      simpa using known.closedOnce.concat fresh
  · intro id closed
    rcases List.mem_append.mp closed with old | new
    · exact still id old
    · exact (closed?_attend known.intact (by simpa using new)).2

/-- What holds at the start of a run holds, with the events of the run, at its end. -/
theorem WatchInvariant.watch {events : List DutyEvent} (known : WatchInvariant events book)
    (duties : List Duty) :
    WatchInvariant (events ++ (book.watch duties).1) (book.watch duties).2 ∧
      KeepsClosed book (book.watch duties).2 := by
  induction duties generalizing book events with
  | nil =>
    rw [watch, List.append_nil]
    exact ⟨known, fun row member _ => member⟩
  | cons duty rest ih =>
    obtain ⟨later, kept⟩ := ih (known.attend duty)
    rw [List.append_assoc] at later
    exact ⟨later, (attend_keeps known.intact known.singular duty).2.trans kept⟩

/-- In every run the open alerts have different targets and each number is closed once; whatever is
done further on, a closed alert stays what it was and no other one bears its number. -/
theorem alertsSingle_watch (duties further : List Duty) :
    AlertsSingle (Book.empty.watch duties).1 (Book.empty.watch duties).2 ∧
      ∀ row ∈ (Book.empty.watch duties).2.alerts, row.acknowledged ≠ 0 →
        row ∈ (Book.empty.watch (duties ++ further)).2.alerts ∧
          ∀ other ∈ (Book.empty.watch (duties ++ further)).2.alerts,
            other.id = row.id → other = row := by
  have start : WatchInvariant [] .empty := ⟨intact_empty, singular_empty, .nil, nofun⟩
  obtain ⟨known, _⟩ := start.watch duties
  obtain ⟨later, kept⟩ := known.watch further
  rw [List.nil_append] at known
  refine ⟨⟨known.singular.single, fun id => ?_, known.closedOnce, fun id closed => ?_⟩, ?_⟩
  · rw [attend_acknowledge known.intact.tables]
  · exact ⟨known.hasOpen_eq closed, known.closed id closed⟩
  · rw [watch_append]
    intro row member handled
    have present := kept row member handled
    exact ⟨present, fun other listed same => later.singular.eq_of_id listed present same⟩

end Book

end JobRelay
