import JobRelay.Book.Accounts
import JobRelay.Proofs.Money.Payable
import JobRelay.Proofs.Monitor.OpenAlerts
import JobRelay.Proofs.Monitor.StuckJobs
import JobRelay.Proofs.Session.History

/-! # Every stored row stays legible

One row that cannot be read makes every list that it is in fail. A job is read again before the
operation that wrote it ends, so a report cannot leave such a row behind. Moves, ledger entries and
alerts are not: their names are written by the book itself, and their times come from the clock.
-/

namespace JobRelay

/-- The clock that an operation is performed by, if it looks at one. -/
def Operation.clock : Operation → Option Instant
  | createUser _ _ _ now | createJob _ _ now | claim _ now | applyReport _ _ now
  | attachInvoice _ _ _ now | forceStatus _ _ _ now | settle _ now | settleByInvoice _ now
  | recordRenege _ now => some now
  | submitOtp _ _ | takeOtp _ => none

/-- A duty is done in the years 0 to 9999. -/
def Duty.Dated : Duty → Prop
  | operate operation => ∀ now ∈ operation.clock, now.Dated
  | check _ now => now.Dated
  | acknowledge _ => True

instance : (duty : Duty) → Decidable duty.Dated
  | .operate operation => inferInstanceAs (Decidable (∀ now ∈ operation.clock, now.Dated))
  | .check _ now => inferInstanceAs (Decidable now.Dated)
  | .acknowledge _ => inferInstanceAs (Decidable True)

/-- What is written of a report can be read back. -/
structure AgentReport.Legible (report : AgentReport) : Prop where
  nextOutreachAt : ∀ time ∈ report.nextOutreachAt, Instant.read? time.stored ≠ none
  accessEndDate : ∀ date ∈ report.accessEndDate, Date.read? date.format ≠ none
  billingDate : ∀ date ∈ report.billingDate, Date.read? date.format ≠ none

private theorem ofName?_alertType (kind : AlertType) :
    Named.ofName? (Named.name kind) = some kind := by
  cases kind <;> decide

private theorem ofName?_severity (severity : Severity) :
    Named.ofName? (Named.name severity) = some severity := by
  cases severity <;> decide

namespace Book

variable {book middle after : Book}

/-! ## New moves and entries bear the time -/

/-- New moves and new entries of the ledger bear the time of a clock. -/
structure Stamps (clock : Option Instant) (book after : Book) : Prop where
  history : ∀ entry ∈ after.history,
    entry ∈ book.history ∨ ∃ now ∈ clock, entry.createdAt = now.stored
  ledger : ∀ entry ∈ after.ledger,
    entry ∈ book.ledger ∨ ∃ now ∈ clock, entry.recordedAt = now.stored

private theorem stamps_of_kept {clock : Option Instant} (history : after.history = book.history)
    (ledger : after.ledger = book.ledger) : Stamps clock book after :=
  ⟨fun _ present => .inl (history ▸ present), fun _ present => .inl (ledger ▸ present)⟩

/-- A move is stamped when it is recorded. -/
private theorem stamps_of_move {entry : HistoryRow} {now : Instant} {added : List LedgerRow}
    (history : after.history = book.history ++ [entry]) (dated : entry.createdAt = now.stored)
    (ledger : after.ledger = book.ledger ++ added)
    (booked : ∀ entry ∈ added, entry.recordedAt = now.stored) :
    Stamps (some now) book after where
  history := by
    intro other present
    rw [history] at present
    rcases List.mem_append.mp present with old | new
    · exact .inl old
    · obtain rfl := List.mem_singleton.mp new
      exact .inr ⟨now, rfl, dated⟩
  ledger := by
    intro other present
    rw [ledger] at present
    rcases List.mem_append.mp present with old | new
    · exact .inl old
    · exact .inr ⟨now, rfl, booked other new⟩

private theorem stamps_moved (book : Book) (id : String) (current next : JobStatus) (actor : Actor)
    (reason : Option String) (now : Instant) (note : JobRow → JobRow) :
    Stamps (some now) book (book.moved id current next actor reason now note) :=
  stamps_of_move rfl rfl (List.append_nil _).symm (List.forall_mem_nil _)

private theorem stamps_settled (book : Book) (job : Job) (next : JobStatus) (paymentStatus : String)
    (now : Instant) : Stamps (some now) book (book.settled job next paymentStatus now) := by
  refine stamps_of_move rfl rfl rfl fun entry booked => ?_
  obtain ⟨amountSats, _, rfl⟩ := List.mem_map.mp booked
  rfl

private theorem Stamps.trans {clock : Option Instant} (earlier : Stamps clock book middle)
    (later : Stamps clock middle after) : Stamps clock book after where
  history entry present := (later.history entry present).elim (earlier.history entry) .inr
  ledger entry present := (later.ledger entry present).elim (earlier.ledger entry) .inr

private theorem claim_stamps (keyed : book.JobsKeyed) {ids : List String} {now : Instant}
    {jobs : List Job} (h : book.claim now ids = .ok (jobs, after)) :
    Stamps (some now) book after := by
  induction ids generalizing book jobs with
  | nil =>
    cases pure_eq_ok_iff.mp h
    exact stamps_of_kept rfl rfl
  | cons id ids ih =>
    simp only [claim, bind_eq_ok_iff, pure_eq_ok_iff] at h
    obtain ⟨⟨_, middle⟩, one, ⟨_, _⟩, rest, h⟩ := h
    cases h
    rcases claimOne_eq_ok keyed one with rfl | ⟨row, member, rfl, stands, rfl⟩
    · exact ih keyed rest
    · have step : Quiet book _ := .moved member stands .dispatched now
      exact (stamps_moved ..).trans (ih (step.jobsKeyed keyed) rest)

/-- A successful operation stamps what it adds with its own clock. -/
theorem apply_stamps (keyed : book.JobsKeyed) {operation : Operation} {reply : Reply}
    (h : operation.apply book = .ok (reply, after)) : Stamps operation.clock book after := by
  cases operation with
  | createUser id email status now =>
    simp only [Operation.apply] at h
    split at h
    · rename_i created
      cases h
      obtain ⟨_, rfl⟩ := createUser_eq_ok created
      exact stamps_of_kept rfl rfl
    · cases h
  | createJob id request now =>
    obtain ⟨_, created, _⟩ := answer_eq_ok h
    obtain ⟨_, _, rfl⟩ := createJob_eq_ok created
    exact stamps_of_move rfl rfl (List.append_nil _).symm (List.forall_mem_nil _)
  | claim ids now =>
    obtain ⟨_, claimed, _⟩ := answer_eq_ok h
    exact claim_stamps keyed claimed
  | applyReport id report now =>
    obtain ⟨_, reported, _⟩ := answer_eq_ok h
    obtain ⟨_, _, _, _, _, _, _, rfl⟩ := applyReport_eq_ok keyed reported
    exact stamps_moved ..
  | attachInvoice id amountSats invoiceId now =>
    obtain ⟨_, attached, _⟩ := answer_eq_ok h
    obtain ⟨_, _, _, _, _, _, _, _, _, rfl⟩ := attachInvoice_eq_ok attached
    exact stamps_of_kept rfl rfl
  | submitOtp id code =>
    simp only [Operation.apply] at h
    split at h
    · rename_i submitted
      cases h
      obtain ⟨_, _, _, _, rfl⟩ := submitOtp_eq_ok keyed submitted
      exact stamps_of_kept rfl rfl
    · cases h
  | takeOtp id =>
    obtain ⟨_, taken, _⟩ := answer_eq_ok h
    rcases takeOtp_eq_ok taken with rfl | rfl <;> exact stamps_of_kept rfl rfl
  | forceStatus id next reason now =>
    obtain ⟨_, forced, _⟩ := answer_eq_ok h
    obtain ⟨_, _, _, _, _, _, _, rfl⟩ := forceStatus_eq_ok keyed forced
    exact stamps_moved ..
  | settle id now =>
    obtain ⟨_, settled, _⟩ := answer_eq_ok h
    obtain ⟨_, _, _, _, _, _, _, _, _, _, rfl⟩ := settle_eq_ok keyed settled
    exact stamps_settled ..
  | settleByInvoice invoiceId now =>
    obtain ⟨_, settled, _⟩ := answer_eq_ok h
    obtain ⟨_, _, _, settled⟩ := settleByInvoice_eq_ok settled
    obtain ⟨_, _, _, _, _, _, _, _, _, _, rfl⟩ := settle_eq_ok keyed settled
    exact stamps_settled ..
  | recordRenege id now =>
    obtain ⟨_, reneged, _⟩ := answer_eq_ok h
    obtain ⟨_, _, _, _, _, _, rfl⟩ := recordRenege_eq_ok keyed reneged
    exact stamps_of_move rfl rfl (List.append_nil _).symm (List.forall_mem_nil _)

/-! ## Legible rows -/

/-- All rows of the book can be read. -/
structure LegibleRows (book : Book) : Prop where
  intact : book.Intact
  recorded : book.Recorded
  moves : ∀ entry ∈ book.history, ∃ time, readInstant entry.createdAt = .ok time
  entries : ∀ entry ∈ book.ledger, ∃ time, readInstant entry.recordedAt = .ok time
  alerts : ∀ row ∈ book.alerts, ∃ alert, readAlert row = .ok alert

private theorem legibleRows_empty : LegibleRows .empty where
  intact := intact_empty
  recorded := recorded_empty
  moves _ member := by cases member
  entries _ member := by cases member
  alerts _ member := by cases member

private theorem LegibleRows.perform (rows : book.LegibleRows) {operation : Operation}
    (dated : ∀ now ∈ operation.clock, now.Dated) : (book.perform operation).2.LegibleRows := by
  have keyed := rows.intact.jobsKeyed
  have stamps : Stamps operation.clock book (book.perform operation).2 := by
    unfold Book.perform atomically
    cases result : operation.apply book with
    | error refusal => exact stamps_of_kept rfl rfl
    | ok outcome => exact apply_stamps keyed result
  have read {text : String} : (∃ now ∈ operation.clock, text = now.stored) →
      ∃ time, readInstant text = .ok time := by
    rintro ⟨now, clock, rfl⟩
    exact ⟨_, readInstant_stored (dated now clock)⟩
  refine ⟨rows.intact.perform operation, rows.recorded.perform keyed operation, ?_, ?_, ?_⟩
  · exact fun entry present => (stamps.history entry present).elim (rows.moves entry) read
  · exact fun entry present => (stamps.ledger entry present).elim (rows.entries entry) read
  · rw [(perform_change keyed operation).sameAlerts.alerts]
    exact rows.alerts

private theorem LegibleRows.withAlerts (rows : book.LegibleRows) {alerts : List AlertRow}
    (legible : ∀ row ∈ alerts, ∃ alert, readAlert row = .ok alert) (lastAlert : Nat) :
    LegibleRows { book with alerts, lastAlert } where
  intact := rows.intact.withAlerts alerts lastAlert
  recorded := ⟨rows.recorded.ordered, rows.recorded.numbered, rows.recorded.owned,
    rows.recorded.logged, rows.recorded.counted⟩
  moves := rows.moves
  entries := rows.entries
  alerts := legible

private theorem readAlert_row (alert : NewAlert) {now : Instant} (dated : now.Dated) (id : Nat) :
    ∃ shown, readAlert (alert.row now id) = .ok shown := by
  rw [readAlert, NewAlert.row]
  simp only [ofName?_alertType, ofName?_severity]
  exact bind_succeeds rfl (bind_succeeds rfl (bind_succeeds (readInstant_stored dated) ⟨_, rfl⟩))

/-- Closing an alert leaves it legible. -/
private theorem readAlert_closedRow {id : Int} {row : AlertRow} {alert : Alert}
    (read : readAlert row = .ok alert) : ∃ shown, readAlert (closedRow id row) = .ok shown := by
  have closed : readAlert { row with acknowledged := 1 } =
      (readAlert row).map fun alert => { alert with acknowledged := true } := by
    rw [readAlert, readAlert]
    cases (Named.ofName? row.alertType : Option AlertType) with
    | none => rfl
    | some kind =>
      cases (Named.ofName? row.severity : Option Severity) with
      | none => rfl
      | some severity => cases readInstant row.createdAt <;> rfl
  unfold closedRow
  split
  · rw [closed, read]
    exact ⟨_, rfl⟩
  · exact ⟨alert, read⟩

private theorem LegibleRows.attend (rows : book.LegibleRows) {duty : Duty} (dated : duty.Dated) :
    (book.attend duty).2.LegibleRows := by
  cases duty with
  | operate operation => exact rows.perform dated
  | check config now =>
    refine runAlertChecks_keeps (motive := LegibleRows) (fun {book} alert _ rows => ?_) config rows
    refine rows.withAlerts (fun row present => ?_) _
    rcases List.mem_append.mp present with old | new
    · exact rows.alerts row old
    · rw [List.mem_singleton.mp new]
      exact readAlert_row alert dated _
  | acknowledge id =>
    rw [attend_acknowledge rows.intact.tables]
    refine rows.withAlerts (fun row present => ?_) book.lastAlert
    obtain ⟨old, member, rfl⟩ := List.mem_map.mp present
    obtain ⟨alert, read⟩ := rows.alerts old member
    exact readAlert_closedRow read

/-! ## What is read of them -/

/-- The names in a recorded move are names. -/
private theorem Recorded.readChange (recorded : book.Recorded) {entry : HistoryRow}
    (member : entry ∈ book.history) {time : Instant} (read : readInstant entry.createdAt = .ok time) :
    ∃ change, Book.readChange entry = .ok change := by
  obtain ⟨row, listed, owns⟩ := recorded.owned entry member
  have among : entry ∈ book.movesOf row.id := List.mem_filter.mpr ⟨member, by simp [owns]⟩
  obtain ⟨origin, next, actor, came, went, by_⟩ : ∃ (origin : Option JobStatus) (next : JobStatus)
      (actor : Actor), entry.fromStatus = origin.map JobStatus.name ∧
        entry.toStatus = next.name ∧ entry.actor = Named.name actor := by
    rcases (recorded.logged row listed).opens_or_follows among with
      opens | ⟨_, actor, current, next, _, _, came, went, by_⟩
    · exact ⟨none, .pending, .scheduler, opens.fromStatus, opens.toStatus, opens.actor⟩
    · exact ⟨some current, next, actor, came, went, by_⟩
  have origin_ : readOptional readName entry.fromStatus = .ok origin := by
    rw [came]
    cases origin with
    | none => rfl
    | some current => exact congrArg (·.map some) (readName_status current)
  have by_ : (readName entry.actor : Except StoreError Actor) = .ok actor := by
    rw [by_, readName, ofName?_actor]
  exact bind_succeeds origin_ (bind_succeeds (went ▸ readName_status next)
    (bind_succeeds by_ (bind_succeeds read ⟨_, rfl⟩)))

private theorem readOptional_succeeds {α β : Type} {read : α → Except StoreError β}
    {found : Option α} (legible : ∀ value ∈ found, ∃ b, read value = .ok b) :
    ∃ result, readOptional read found = .ok result := by
  cases found with
  | none => exact ⟨none, rfl⟩
  | some value =>
    obtain ⟨b, read⟩ := legible value rfl
    exact ⟨some b, congrArg (·.map some) read⟩

/-- The jobs that are stuck in one status can be read, whatever the limit and the time. -/
private theorem Intact.stuckIn (intact : book.Intact) (now : Instant) (watched : JobStatus × Int) :
    ∃ stuck, book.stuckIn now watched = .ok stuck :=
  stuckIn_succeeds (need_of_tables intact.tables .jobs) intact.readable

/-! ## Reports -/

/-- What was reported into a column that could be read can be read. -/
private theorem reads_of_readOptional {α β γ : Type} {write : α → β}
    {read : β → Except StoreError γ} {reported : Option α} {stored : Option β} {result : Option γ}
    (h : readOptional read ((reported.map write).or stored) = .ok result) :
    ∀ value ∈ reported, ∃ c, read (write value) = .ok c := by
  rintro value ⟨⟩
  rw [Option.map_some, Option.some_or, readOptional] at h
  cases shown : read (write value) with
  | error fault => simp [shown, Except.map] at h
  | ok c => exact ⟨c, rfl⟩

private theorem read?_of_readInstant {text : String} (h : ∃ time, readInstant text = .ok time) :
    Instant.read? text ≠ none := by
  rintro unread
  obtain ⟨time, read⟩ := h
  simp [readInstant, unread] at read

private theorem read?_of_readDate {text : String} (h : ∃ date, readDate text = .ok date) :
    Date.read? text ≠ none := by
  rintro unread
  obtain ⟨date, read⟩ := h
  simp [readDate, unread] at read

/-- A report whose values could not be read back is refused and leaves the job as it was. -/
theorem applyReport_of_illegible (intact : book.Intact) (id : String) {report : AgentReport}
    (illegible : ¬report.Legible) (now : Instant) :
    ∃ cause, book.perform (.applyReport id report now) = (.error cause, book) := by
  rw [Book.perform, atomically]
  cases result : (Operation.applyReport id report now).apply book with
  | error cause => exact ⟨cause, rfl⟩
  | ok outcome =>
    -- The job has been read with the report written into it, so the report could be read back.
    refine (illegible ?_).elim
    have readable := apply_readable intact.jobsKeyed intact.readable result
    obtain ⟨_, reported, _⟩ := answer_eq_ok result
    obtain ⟨row, member, rfl, current, stands, _, _, written⟩ :=
      applyReport_eq_ok intact.jobsKeyed reported
    have present : reportedRow report (movedRow report.status now row) ∈ outcome.2.jobs := by
      rw [written]
      exact List.mem_map.mpr ⟨row, member, if_pos rfl⟩
    obtain ⟨job, read⟩ := readable _ present
    simp only [readJob, bind_eq_ok_iff] at read
    obtain ⟨_, _, _, _, _, _, _, _, _, _, _, billing, _, access, _, next, _⟩ := read
    exact {
      nextOutreachAt := fun time reported =>
        read?_of_readInstant (reads_of_readOptional next time reported)
      accessEndDate := fun date reported =>
        read?_of_readDate (reads_of_readOptional access date reported)
      billingDate := fun date reported =>
        read?_of_readDate (reads_of_readOptional billing date reported) }

/-- Everything that is stored can be read, and a report that could not be is refused. -/
structure Legible (book : Book) : Prop where
  job : ∀ id, ∃ found, book.fetchJob id = .ok found
  invoice : ∀ invoiceId, ∃ found, book.findByInvoice invoiceId = .ok found
  jobs : ∀ status limit, ∃ jobs, book.listByStatus status limit = .ok jobs
  history : ∀ id, ∃ changes, book.historyOf id = .ok changes
  ledger : ∀ jobId, ∃ entries, book.ledgerEntries jobId = .ok entries
  stuck : ∀ thresholds now, ∃ stuck, book.findStuck thresholds now = .ok stuck
  alerts : ∃ alerts, book.openAlerts = .ok alerts
  reports : ∀ id report now, ¬report.Legible →
    ∃ cause, book.perform (.applyReport id report now) = (.error cause, book)

private theorem LegibleRows.legible (rows : book.LegibleRows) : book.Legible where
  job id := by
    refine bind_succeeds (need_of_tables rows.intact.tables .jobs)
      (readOptional_succeeds fun row found => ?_)
    exact rows.intact.readable row (jobRow?_eq_some found).1
  invoice invoiceId := by
    refine bind_succeeds (need_of_tables rows.intact.tables .jobs)
      (readOptional_succeeds fun row found => ?_)
    exact rows.intact.readable row (List.mem_of_find?_eq_some found)
  jobs status limit := by
    refine bind_succeeds (need_of_tables rows.intact.tables .jobs)
      (mapM_succeeds fun row member => ?_)
    have listed := List.mem_mergeSort.mp (List.mem_of_mem_take member)
    exact rows.intact.readable row (List.mem_filter.mp listed).1
  history id := by
    refine bind_succeeds (need_of_tables rows.intact.tables .history)
      (mapM_succeeds fun entry member => ?_)
    have listed := (List.mem_filter.mp member).1
    obtain ⟨time, read⟩ := rows.moves entry listed
    exact rows.recorded.readChange listed read
  ledger jobId := by
    refine bind_succeeds (need_of_tables rows.intact.tables .ledger)
      (mapM_succeeds fun entry member => ?_)
    obtain ⟨time, read⟩ := rows.entries entry (List.mem_filter.mp member).1
    exact bind_succeeds read ⟨_, rfl⟩
  stuck thresholds now := by
    obtain ⟨found, each⟩ : ∃ found, thresholds.watched.mapM (book.stuckIn now) = .ok found :=
      mapM_succeeds fun watched _ => rows.intact.stuckIn now watched
    exact bind_succeeds each ⟨_, rfl⟩
  alerts := by
    refine bind_succeeds (need_of_tables rows.intact.tables .alerts)
      (mapM_succeeds fun row member => ?_)
    exact rows.alerts row (List.mem_filter.mp member).1
  reports id report now illegible := applyReport_of_illegible rows.intact id illegible now

/-- Whatever agents report, every row that is ever stored in the years 0 to 9999 can be read. -/
theorem legible_watch (duties : List Duty) (dated : ∀ duty ∈ duties, duty.Dated) :
    (Book.empty.watch duties).2.Legible :=
  (watch_keeps (fun rows dated => rows.attend dated) legibleRows_empty dated).legible

/-- An agent wants to come back in the year 10000 at first and in the last second before it then; the
job is paid, and the number of users raises an alert. -/
def lateReport : List Duty :=
  [.operate (.createUser "u" none "active" ⟨0, 0⟩),
   .operate (.createJob "j" ⟨"u", "s", .cancel, .scheduled, none⟩ ⟨1, 0⟩),
   .operate (.claim ["j"] ⟨2, 0⟩),
   .operate (.applyReport "j" ⟨.active, some ⟨253402300800, 0⟩, none, none, none⟩ ⟨3, 0⟩),
   .operate (.applyReport "j" ⟨.active, some ⟨253402300799, 0⟩, none, none, some "n"⟩ ⟨4, 0⟩),
   .operate (.attachInvoice "j" 700 "i" ⟨5, 0⟩),
   .operate (.settle "j" ⟨6, 0⟩),
   .check { userCapacity := 1 } ⟨100000, 0⟩]

theorem legible_lateReport :
    ((Book.empty.watch (lateReport.take 3)).2.perform
        (.applyReport "j" ⟨.active, some ⟨253402300800, 0⟩, none, none, none⟩ ⟨3, 0⟩)).1.isOk = false ∧
      (Book.empty.watch (lateReport.take 7)).2.history.length = 4 ∧
      (Book.empty.watch (lateReport.take 7)).2.ledger.length = 1 ∧
      (Book.empty.watch lateReport).2.Legible :=
  ⟨by decide +kernel, by decide +kernel, by decide +kernel, legible_watch lateReport (by decide)⟩

end Book

end JobRelay
