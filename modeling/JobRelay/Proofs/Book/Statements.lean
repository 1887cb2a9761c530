import JobRelay.Lifecycle.Dispatch
import JobRelay.Lifecycle.Progress
import JobRelay.Proofs.Keyed
import JobRelay.Proofs.Results
import JobRelay.Settlement.Basic
import Mathlib.Data.List.Nodup

/-! # What statements write

A statement that succeeds has found its tables, and the book it leaves is a plain function of the
book it was given. This module names those functions and shows for each statement that it succeeds
with exactly that book, so that whole operations are taken apart without opening any statement.
-/

namespace JobRelay

section Faults

variable {α : Type}

theorem liftMove_eq_ok_iff {x : Except StoreError α} {a : α} :
    (liftM x : Except TransitionError α) = .ok a ↔ x = .ok a := mapError_eq_ok_iff

theorem liftMove_eq_error_iff {x : Except StoreError α} {cause : TransitionError} :
    (liftM x : Except TransitionError α) = .error cause ↔
      ∃ fault, x = .error fault ∧ cause = .store fault := mapError_eq_error_iff

theorem liftPayment_eq_ok_iff {x : Except StoreError α} {a : α} :
    (liftM x : Except SettlementError α) = .ok a ↔ x = .ok a := mapError_eq_ok_iff

end Faults

namespace Book

variable {book after : Book}

/-! ## Reading jobs -/

private theorem readName_eq_ok {α : Type} [Named α] {text : String} {value : α}
    (h : readName text = .ok value) : Named.name value = text := by
  unfold readName at h
  split at h
  · rename_i found
    cases h
    exact Named.name_of_ofName? found
  · cases h

/-- A job that was read shows the columns of its row. -/
structure Shows (row : JobRow) (job : Job) : Prop where
  id : job.id = row.id
  userId : job.userId = row.userId
  serviceId : job.serviceId = row.serviceId
  action : Named.name job.action = row.action
  status : row.status = job.status.name
  amountSats : job.amountSats = row.amountSats
  invoiceId : job.invoiceId = row.invoiceId

theorem shows_of_readJob {row : JobRow} {job : Job} (h : readJob row = .ok job) :
    Shows row job := by
  simp only [readJob, bind_eq_ok_iff, pure_eq_ok_iff] at h
  obtain ⟨action, readAction, _, _, _, _, status, readStatus, _, _, _, _, _, _, _, _, _, _, rfl⟩ := h
  exact ⟨rfl, rfl, rfl, readName_eq_ok readAction, (readName_eq_ok readStatus).symm, rfl, rfl⟩

theorem readInstant_of_readJob {row : JobRow} {job : Job} (read : readJob row = .ok job) :
    readInstant row.statusUpdatedAt = .ok job.statusUpdatedAt := by
  simp only [readJob, bind_eq_ok_iff, pure_eq_ok_iff] at read
  obtain ⟨_, _, _, _, _, _, _, _, since, time, _, _, _, _, _, _, _, _, rfl⟩ := read
  exact time

theorem jobRow?_eq_some {id : String} {row : JobRow} (h : book.jobRow? id = some row) :
    row ∈ book.jobs ∧ row.id = id :=
  ⟨List.mem_of_find?_eq_some h, by simpa using List.find?_some h⟩

/-- A job is read from the row that is found under its id. -/
theorem fetchJob_eq_found {id : String} {job : Job} (h : book.fetchJob id = .ok (some job)) :
    ∃ row, book.jobRow? id = some row ∧ readJob row = .ok job := by
  simp only [fetchJob, bind_eq_ok_iff] at h
  obtain ⟨_, _, read⟩ := h
  cases found : book.jobRow? id with
  | none => simp [found, readOptional] at read
  | some row =>
    cases result : readJob row with
    | error fault => simp [found, readOptional, result, Except.map] at read
    | ok shown =>
      obtain rfl : shown = job := by simpa [found, readOptional, result, Except.map] using read
      exact ⟨row, rfl, result⟩

theorem fetchJob_eq_some {id : String} {job : Job} (h : book.fetchJob id = .ok (some job)) :
    ∃ row ∈ book.jobs, row.id = id ∧ Shows row job := by
  obtain ⟨row, found, read⟩ := fetchJob_eq_found h
  obtain ⟨member, same⟩ := jobRow?_eq_some found
  exact ⟨row, member, same, shows_of_readJob read⟩

theorem requireJob_eq_ok {id : String} {job : Job} (h : book.requireJob id = .ok job) :
    ∃ row ∈ book.jobs, row.id = id ∧ Shows row job := by
  simp only [requireJob, bind_eq_ok_iff, liftMove_eq_ok_iff] at h
  obtain ⟨found, fetched, h⟩ := h
  cases found with
  | none => cases h
  | some found =>
    obtain rfl := pure_eq_ok_iff.mp h
    exact fetchJob_eq_some fetched

/-! ## Moving jobs -/

/-- The row of a job in another status. -/
def movedRow (next : JobStatus) (now : Instant) (row : JobRow) : JobRow :=
  { row with status := next.name, statusUpdatedAt := now.stored }

theorem movedRow_id (next : JobStatus) (now : Instant) (row : JobRow) :
    (movedRow next now row).id = row.id := rfl

/-- The ids of a table of jobs are told apart. -/
def JobsKeyed (book : Book) : Prop :=
  (book.jobs.map (·.id)).Nodup

theorem JobsKeyed.eq_of_id (keyed : book.JobsKeyed) {first second : JobRow}
    (left : first ∈ book.jobs) (right : second ∈ book.jobs) (same : first.id = second.id) :
    first = second :=
  List.inj_on_of_nodup_map keyed left right same

/-- Changing the rows under an id that also meet a test that the row under that id meets is
changing the row under the id. -/
theorem map_eq_updateJobs (keyed : book.JobsKeyed) {row : JobRow} (member : row ∈ book.jobs)
    (test : JobRow → Prop) [DecidablePred test] (meets : test row) (update : JobRow → JobRow) :
    (book.jobs.map fun other => if other.id = row.id ∧ test other then update other else other) =
      updateJobs book.jobs row.id update := by
  apply List.map_congr_left
  intro other present
  by_cases same : other.id = row.id
  · obtain rfl := keyed.eq_of_id present member same
    simp [meets]
  · simp [same]

/-- The job rows after a move of those that stand where the moved job stands. -/
def movedRows (jobs : List JobRow) (row : JobRow) (next : JobStatus) (now : Instant) :
    List JobRow :=
  jobs.map fun other =>
    if other.id = row.id ∧ other.status = row.status then movedRow next now other else other

/-- The job that was found moves, and with it what repeats its id and its status. -/
theorem moveJob?_of_found {id : String} {row : JobRow} (found : book.jobRow? id = some row)
    {job : Job} (shows : Shows row job) (next : JobStatus) (now : Instant) :
    book.moveJob? job.id job.status next now =
      some { book with jobs := movedRows book.jobs row next now } := by
  obtain ⟨member, _⟩ := jobRow?_eq_some found
  have standing : (book.jobs.any fun other => other.id == job.id && other.status == job.status.name) :=
    List.any_eq_true.mpr ⟨row, member, by simp [shows.id, shows.status]⟩
  rw [moveJob?, if_pos standing, movedRows, shows.id, shows.status]
  rfl

/-- Where ids are told apart, only the job itself moves. -/
theorem movedRows_eq_updateJobs (keyed : book.JobsKeyed) {row : JobRow} (member : row ∈ book.jobs)
    (next : JobStatus) (now : Instant) :
    movedRows book.jobs row next now = updateJobs book.jobs row.id (movedRow next now) :=
  map_eq_updateJobs keyed member (·.status = row.status) rfl (movedRow next now)

/-- A job moves from where it stands. -/
theorem moveJob?_of_stands (keyed : book.JobsKeyed) {row : JobRow} (member : row ∈ book.jobs)
    {current next : JobStatus} {now : Instant} (stands : row.status = current.name) :
    book.moveJob? row.id current next now = some (book.updateJob row.id (movedRow next now)) := by
  have standing : (book.jobs.any fun other => other.id == row.id && other.status == current.name) :=
    List.any_eq_true.mpr ⟨row, member, by simp [stands]⟩
  rw [moveJob?, if_pos standing]
  exact congrArg (fun jobs => some { book with jobs })
    (map_eq_updateJobs keyed member (·.status = current.name) stands (movedRow next now))

theorem moveJob?_eq_some (keyed : book.JobsKeyed) {id : String} {current next : JobStatus}
    {now : Instant} (h : book.moveJob? id current next now = some after) :
    ∃ row ∈ book.jobs, row.id = id ∧ row.status = current.name ∧
      after = book.updateJob id (movedRow next now) := by
  obtain ⟨row, member, rfl, stands⟩ :
      ∃ row ∈ book.jobs, row.id = id ∧ row.status = current.name := by
    unfold moveJob? at h
    split at h
    · rename_i standing
      simpa using standing
    · cases h
  rw [moveJob?_of_stands keyed member stands] at h
  cases h
  exact ⟨row, member, rfl, stands, rfl⟩

theorem moveJob_eq_ok (keyed : book.JobsKeyed) {row : JobRow} (member : row ∈ book.jobs)
    {job : Job} (shows : Shows row job) {next : JobStatus} {now : Instant}
    (h : book.moveJob job next now = .ok after) :
    after = book.updateJob row.id (movedRow next now) := by
  unfold moveJob at h
  rw [shows.id, moveJob?_of_stands keyed member shows.status] at h
  cases h
  rfl

/-! ## Appending -/

/-- The book with a move appended to the history. -/
def withMove (book : Book) (jobId : String) (fromStatus : Option JobStatus)
    (toStatus : JobStatus) (actor : Actor) (reason : Option String) (now : Instant) : Book :=
  let row : HistoryRow :=
    { id := book.lastHistory + 1
      jobId
      fromStatus := fromStatus.map JobStatus.name
      toStatus := toStatus.name
      actor := Named.name actor
      reason
      createdAt := now.stored }
  { book with history := book.history ++ [row], lastHistory := book.lastHistory + 1 }

theorem recordMove_eq_ok {jobId : String} {fromStatus : Option JobStatus} {toStatus : JobStatus}
    {actor : Actor} {reason : Option String} {now : Instant}
    (h : book.recordMove jobId fromStatus toStatus actor reason now = .ok after) :
    after = book.withMove jobId fromStatus toStatus actor reason now := by
  simp only [recordMove, bind_eq_ok_iff, pure_eq_ok_iff] at h
  obtain ⟨_, _, rfl⟩ := h
  rfl

/-- The entry of the revenue ledger for a payment. -/
def revenueRow (book : Book) (job : Job) (amountSats : Int) (paymentStatus : String)
    (now : Instant) : LedgerRow :=
  { id := book.lastLedger + 1
    jobId := job.id
    serviceId := job.serviceId
    action := Named.name job.action
    amountSats
    paymentStatus
    recordedAt := now.stored }

/-- The book with an entry appended to the revenue ledger. -/
def withRevenue (book : Book) (row : LedgerRow) : Book :=
  { book with ledger := book.ledger ++ [row], lastLedger := book.lastLedger + 1 }

theorem recordRevenue_eq_ok {job : Job} {amountSats : Int} {paymentStatus : String} {now : Instant}
    (h : book.recordRevenue job amountSats paymentStatus now = .ok after) :
    after = book.withRevenue (book.revenueRow job amountSats paymentStatus now) := by
  simp only [recordRevenue, bind_eq_ok_iff, pure_eq_ok_iff] at h
  obtain ⟨_, _, rfl⟩ := h
  rfl

/-! ## Writing under a key -/

/-- The payment records with one written: appended, or changed where it is. -/
def recordRows (rows : List TransactionRow) (fresh : TransactionRow)
    (change : TransactionRow → TransactionRow) : List TransactionRow :=
  if rows.any (·.jobId == fresh.jobId) then
    rows.map fun row => if row.jobId = fresh.jobId then change row else row
  else rows ++ [fresh]

theorem recordTransaction_eq_ok {fresh : TransactionRow} {change : TransactionRow → TransactionRow}
    (h : book.recordTransaction fresh change = .ok after) :
    after = { book with transactions := recordRows book.transactions fresh change } := by
  simp only [recordTransaction, bind_eq_ok_iff] at h
  obtain ⟨_, _, h⟩ := h
  unfold recordRows
  split at h <;> rename_i found <;> cases h <;> simp [found]

theorem changeDebt_eq_ok {userId : String} {change : Int → Int}
    (h : book.changeDebt userId change = .ok after) :
    after = book.updateUser userId fun row => { row with debtSats := change row.debtSats } := by
  simp only [changeDebt, bind_eq_ok_iff, throw_bind, guard_eq_ok_iff, pure_eq_ok_iff] at h
  obtain ⟨_, _, _, rfl⟩ := h
  rfl

/-- The email hash of a user, if there is one. -/
def hashOf (book : Book) (userId : String) : Option String :=
  (book.userRow? userId).bind (·.emailHash)

theorem emailHash_eq_ok {userId : String} {hash : Option String}
    (h : book.emailHash userId = .ok hash) : hash = book.hashOf userId := by
  simp only [emailHash, bind_eq_ok_iff, pure_eq_ok_iff] at h
  obtain ⟨_, _, rfl⟩ := h
  rfl

/-- The blocklist with the debt under a hash lowered, and dropped at zero. -/
def loweredRows (rows : List BlocklistRow) (hash : String) (amountSats : Int) (now : Instant) :
    List BlocklistRow :=
  (rows.map fun row =>
    if row.emailHash = hash then
      { row with debtSats := Amount.lower row.debtSats amountSats, updatedAt := now.stored }
    else row).filter fun row => !(row.emailHash == hash && row.debtSats == 0)

theorem lowerBlocklist_eq_ok {hash : String} {amountSats : Int} {now : Instant}
    (h : book.lowerBlocklist hash amountSats now = .ok after) :
    after = { book with blocklist := loweredRows book.blocklist hash amountSats now } := by
  simp only [lowerBlocklist, bind_eq_ok_iff, pure_eq_ok_iff] at h
  obtain ⟨_, _, rfl⟩ := h
  rfl

/-- The blocklist with the debt under a hash raised, or begun. -/
def raisedRows (rows : List BlocklistRow) (hash : String) (amountSats : Int) (now : Instant) :
    List BlocklistRow :=
  if rows.any (·.emailHash == hash) then
    rows.map fun row =>
      if row.emailHash = hash then
        { row with debtSats := Amount.add row.debtSats amountSats, updatedAt := now.stored }
      else row
  else rows ++ [{ emailHash := hash, debtSats := amountSats, updatedAt := now.stored }]

theorem raiseBlocklist_eq_ok {hash : String} {amountSats : Int} {now : Instant}
    (h : book.raiseBlocklist hash amountSats now = .ok after) :
    after = { book with blocklist := raisedRows book.blocklist hash amountSats now } := by
  simp only [raiseBlocklist, bind_eq_ok_iff] at h
  obtain ⟨_, _, h⟩ := h
  unfold raisedRows
  split at h <;> rename_i found <;> cases h <;> simp [found]

end Book

end JobRelay
