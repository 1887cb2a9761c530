import JobRelay.Proofs.Book.Statements
import JobRelay.Proofs.Session.Basic
import Mathlib.Logic.Relation

/-! # What operations do

Every operation that is not refused has one effect, which is named here as a plain function from
book to book, with the guards that the operation has passed. `perform_change` collects them: all
operations but invoicing, settling and writing off are quiet, that is, they touch neither payment
records nor the ledger nor the blocklist.
-/

namespace JobRelay.Book

variable {book after : Book}

/-! ## Users and new jobs -/

/-- The book with a waiting job, its first move recorded. -/
def jobAdded (book : Book) (id : String) (request : NewJob) (now : Instant) : Book :=
  { book with jobs := book.jobs ++ [newJobRow id request now] }.withMove id none .pending
    .scheduler none now

theorem createUser_eq_ok {id status : String} {emailHash : Option String} {now : Instant}
    (h : book.createUser id emailHash status now = .ok after) :
    (∀ user ∈ book.users, user.id ≠ id) ∧
      after = { book with
        users := book.users ++ [{ id, emailHash, debtSats := 0, status, createdAt := now.stored }] } := by
  simp only [createUser, bind_eq_ok_iff, throw_bind, guard_eq_ok_iff, pure_eq_ok_iff] at h
  obtain ⟨_, _, fresh, rfl⟩ := h
  exact ⟨by simpa using fresh, rfl⟩

theorem createJob_eq_ok {id : String} {request : NewJob} {now : Instant} {job : Job}
    (h : book.createJob id request now = .ok (job, after)) :
    (∀ row ∈ book.jobs, row.id ≠ id) ∧ (∃ user ∈ book.users, user.id = request.userId) ∧
      after = book.jobAdded id request now := by
  simp only [createJob, insertJob, bind_eq_ok_iff, throw_bind, guard_eq_ok_iff,
    pure_eq_ok_iff] at h
  obtain ⟨_, ⟨_, _, _, _, fresh, owner, rfl⟩, _, recorded, found, _, h⟩ := h
  cases found with
  | none => cases h
  | some found =>
    cases pure_eq_ok_iff.mp h
    refine ⟨by simpa [newJobRow] using fresh, by simpa [newJobRow] using owner, ?_⟩
    exact recordMove_eq_ok recorded

/-! ## Moves -/

/-- The book with a job moved and the move recorded; `note` writes what else comes with the
move. -/
def moved (book : Book) (id : String) (current next : JobStatus) (actor : Actor)
    (reason : Option String) (now : Instant) (note : JobRow → JobRow) : Book :=
  { book.withMove id (some current) next actor reason now with
    jobs := updateJobs book.jobs id fun row => note (movedRow next now row) }

private theorem updateJobs_updateJobs (jobs : List JobRow) (id : String) {first : JobRow → JobRow}
    (keeps : ∀ row, (first row).id = row.id) (second : JobRow → JobRow) :
    updateJobs (updateJobs jobs id first) id second =
      updateJobs jobs id fun row => second (first row) := by
  simp only [updateJobs, List.map_map]
  apply List.map_congr_left
  intro row _
  by_cases same : row.id = id <;> simp [same, keeps]

theorem claimOne_eq_ok (keyed : book.JobsKeyed) {id : String} {now : Instant} {job : Option Job}
    (h : book.claimOne id now = .ok (job, after)) :
    after = book ∨ ∃ row ∈ book.jobs, row.id = id ∧ row.status = JobStatus.pending.name ∧
      after = book.moved id .pending .dispatched .agent none now fun row => row := by
  simp only [claimOne, bind_eq_ok_iff] at h
  obtain ⟨_, _, h⟩ := h
  split at h
  · cases pure_eq_ok_iff.mp h
    exact .inl rfl
  · rename_i next moves
    simp only [bind_eq_ok_iff, pure_eq_ok_iff] at h
    obtain ⟨_, recorded, found, _, h⟩ := h
    cases h
    obtain ⟨row, member, same, stands, rfl⟩ := moveJob?_eq_some keyed moves
    exact .inr ⟨row, member, same, stands, recordMove_eq_ok recorded⟩

theorem applyReport_eq_ok (keyed : book.JobsKeyed) {id : String} {report : AgentReport}
    {now : Instant} {job : Job} (h : book.applyReport id report now = .ok (job, after)) :
    ∃ row ∈ book.jobs, row.id = id ∧ ∃ current : JobStatus, row.status = current.name ∧
      report.status.isAgentReportable ∧ current.canMoveTo report.status ∧
      after = book.moved id current report.status .agent report.note now (reportedRow report) := by
  simp only [applyReport, bind_eq_ok_iff, throw_bind, guard_eq_ok_iff, liftMove_eq_ok_iff,
    pure_eq_ok_iff] at h
  obtain ⟨found, read, lawful, _, moves, _, recorded, _, _, h⟩ := h
  cases h
  obtain ⟨row, member, same, shows⟩ := requireJob_eq_ok read
  obtain rfl := moveJob_eq_ok keyed member shows moves
  obtain rfl := recordMove_eq_ok recorded
  simp only [Bool.or_eq_true, Bool.not_eq_true', not_or, Bool.not_eq_false] at lawful
  refine ⟨row, member, same, found.status, shows.status, lawful.1, lawful.2, ?_⟩
  subst same
  simp only [moved, withMove, updateJob]
  rw [updateJobs_updateJobs _ _ (movedRow_id report.status now)]

theorem forceStatus_eq_ok (keyed : book.JobsKeyed) {id reason : String} {next : JobStatus}
    {now : Instant} {job : Job} (h : book.forceStatus id next reason now = .ok (job, after)) :
    ∃ row ∈ book.jobs, row.id = id ∧ ∃ current : JobStatus, row.status = current.name ∧
      current.canForceTo next ∧ (Text.trim reason).isEmpty = false ∧
      after =
        book.moved id current next .operator (some (Text.trim reason)) now fun row => row := by
  simp only [forceStatus, bind_eq_ok_iff, throw_bind, guard_eq_ok_iff, liftMove_eq_ok_iff,
    pure_eq_ok_iff] at h
  obtain ⟨given, found, read, allowed, _, moves, _, recorded, _, _, h⟩ := h
  cases h
  obtain ⟨row, member, same, shows⟩ := requireJob_eq_ok read
  obtain rfl := moveJob_eq_ok keyed member shows moves
  obtain rfl := recordMove_eq_ok recorded
  refine ⟨row, member, same, found.status, shows.status, ?_, ?_, ?_⟩
  · simpa using allowed
  · simpa using given
  · subst same
    rfl

/-! ## One-time codes -/

/-- The row of a job with another waiting code. -/
def codedRow (code : Option String) (row : JobRow) : JobRow :=
  { row with otpCode := code }

theorem submitOtp_eq_ok (keyed : book.JobsKeyed) {id code : String}
    (h : book.submitOtp id code = .ok after) :
    ∃ row ∈ book.jobs, row.id = id ∧ row.status = JobStatus.awaitingOtp.name ∧
      after = book.updateJob id (codedRow (some (Text.trim code))) := by
  simp only [submitOtp, bind_eq_ok_iff] at h
  obtain ⟨_, _, h⟩ := h
  split at h
  · rename_i waiting
    obtain ⟨row, member, rfl, stands⟩ :
        ∃ row ∈ book.jobs, row.id = id ∧ row.status = JobStatus.awaitingOtp.name := by
      simpa using waiting
    cases pure_eq_ok_iff.mp h
    refine ⟨row, member, rfl, stands, ?_⟩
    exact congrArg (fun jobs => { book with jobs })
      (map_eq_updateJobs keyed member (·.status = JobStatus.awaitingOtp.name) stands _)
  · simp only [bind_eq_ok_iff, throw_eq_ok_iff, and_false, exists_false] at h

theorem takeOtp_eq_ok {id : String} {code : Option String}
    (h : book.takeOtp id = .ok (code, after)) :
    after = book ∨ after = book.updateJob id (codedRow none) := by
  simp only [takeOtp, bind_eq_ok_iff] at h
  obtain ⟨_, _, h⟩ := h
  split at h <;> cases pure_eq_ok_iff.mp h
  · exact .inr rfl
  · exact .inl rfl

/-! ## Money -/

/-- The row of a job with a price and an invoice. -/
def pricedRow (amountSats : Int) (invoiceId : String) (row : JobRow) : JobRow :=
  { row with amountSats := some amountSats, invoiceId := some invoiceId }

/-- The users with the debt of one of them changed. -/
def debtRows (users : List UserRow) (userId : String) (change : Int → Int) : List UserRow :=
  users.map fun user =>
    if user.id = userId then { user with debtSats := change user.debtSats } else user

/-- The book with a price and an invoice on a job. -/
def invoiced (book : Book) (job : Job) (amountSats : Int) (invoiceId : String) (now : Instant) :
    Book :=
  { book with
    users := debtRows book.users job.userId (Amount.add · amountSats)
    jobs := updateJobs book.jobs job.id (pricedRow amountSats invoiceId)
    transactions :=
      recordRows book.transactions (openTransaction job amountSats invoiceId now) fun row =>
        { row with amountSats := some amountSats, invoiceId := some invoiceId } }

theorem attachInvoice_eq_ok {id invoiceId : String} {amountSats : Int} {now : Instant} {job : Job}
    (h : book.attachInvoice id amountSats invoiceId now = .ok (job, after)) :
    ∃ row ∈ book.jobs, ∃ found, row.id = id ∧ Shows row found ∧ found.invoiceId = none ∧
      found.status ≠ .pending ∧ found.status.isTerminal = false ∧
      (∀ other ∈ book.jobs, other.id ≠ id → other.invoiceId ≠ some invoiceId) ∧
      after = book.invoiced found amountSats invoiceId now := by
  simp only [attachInvoice, bind_eq_ok_iff, throw_bind, guard_eq_ok_iff, not_or] at h
  obtain ⟨found, read, ⟨waits, ended⟩, h⟩ := h
  obtain ⟨row, member, rfl, shows⟩ := requireJob_eq_ok read
  split at h
  · cases h
  · rename_i uninvoiced
    simp only [bind_eq_ok_iff, liftMove_eq_ok_iff, pure_eq_ok_iff] at h
    obtain ⟨_, priced, _, owed, _, recorded, _, _, h⟩ := h
    cases h
    unfold writeInvoice at priced
    split at priced
    · cases priced
    · rename_i unused
      cases priced
      obtain rfl := changeDebt_eq_ok owed
      obtain rfl := recordTransaction_eq_ok recorded
      refine ⟨row, member, found, rfl, shows, ?_, waits, by simpa using ended, ?_, ?_⟩
      · exact Option.eq_none_iff_forall_ne_some.mpr uninvoiced
      · simpa using unused
      · rw [invoiced, shows.id]
        rfl

/-- The email hash that a job is blocked under, and the amount. -/
def charge (book : Book) (job : Job) : Option (String × Int) :=
  (positivePrice job).bind fun amountSats => (book.hashOf job.userId).map (·, amountSats)

/-- The blocklist after a payment: a late one pays off what its job added. -/
def paidOffRows (book : Book) (job : Job) (paymentStatus : String) (now : Instant) :
    List BlocklistRow :=
  match book.charge job with
  | some (hash, amountSats) =>
    if paymentStatus = "eventual" then loweredRows book.blocklist hash amountSats now
    else book.blocklist
  | none => book.blocklist

/-- The book with a job settled. -/
def settled (book : Book) (job : Job) (next : JobStatus) (paymentStatus : String) (now : Instant) :
    Book :=
  { book.withMove job.id (some job.status) next .settlement none now with
    users := (positivePrice job).elim book.users fun amountSats =>
      debtRows book.users job.userId (Amount.lower · amountSats)
    jobs := updateJobs book.jobs job.id (movedRow next now)
    transactions :=
      recordRows book.transactions (transactionOf job paymentStatus (some now.stored) now)
        fun row => { row with status := paymentStatus, paidAt := some now.stored }
    ledger := book.ledger ++ (positivePrice job).toList.map fun amountSats =>
      book.revenueRow job amountSats paymentStatus now
    blocklist := book.paidOffRows job paymentStatus now
    lastLedger := book.lastLedger + (positivePrice job).toList.length }

/-- Two books with the same users, whatever these owe. -/
def SameUsers (book after : Book) : Prop :=
  after.users.map (fun user => (user.id, user.emailHash)) =
    book.users.map fun user => (user.id, user.emailHash)

theorem sameUsers_of_debts (userId : String) (change : Int → Int)
    (users : after.users = debtRows book.users userId change) : SameUsers book after := by
  rw [SameUsers, users, debtRows, List.map_map]
  apply List.map_congr_left
  intro user _
  by_cases same : user.id = userId <;> simp [same]

theorem SameUsers.hashOf_eq (same : SameUsers book after) (userId : String) :
    after.hashOf userId = book.hashOf userId := by
  have read (book : Book) : book.hashOf userId =
      ((book.users.map fun user => (user.id, user.emailHash)).find? (·.1 == userId)).bind (·.2) := by
    rw [List.find?_map, hashOf, userRow?, Option.bind_map]
    rfl
  rw [read, read, same]

theorem SameUsers.ids_eq (same : SameUsers book after) :
    after.users.map (·.id) = book.users.map (·.id) := by
  simpa [Function.comp_def] using congrArg (List.map Prod.fst) same

theorem creditPayment_eq_ok {job : Job} {amountSats : Int} {paymentStatus : String} {now : Instant}
    (price : positivePrice job = some amountSats)
    (h : book.creditPayment job amountSats paymentStatus now = .ok after) :
    after = { book with
      users := debtRows book.users job.userId (Amount.lower · amountSats)
      ledger := book.ledger ++ [book.revenueRow job amountSats paymentStatus now]
      lastLedger := book.lastLedger + 1
      blocklist := book.paidOffRows job paymentStatus now } := by
  simp only [creditPayment, bind_eq_ok_iff] at h
  obtain ⟨_, owed, _, booked, h⟩ := h
  obtain rfl := changeDebt_eq_ok owed
  obtain rfl := recordRevenue_eq_ok booked
  by_cases late : paymentStatus = "eventual"
  · rw [if_neg (by simp [late])] at h
    simp only [bind_eq_ok_iff] at h
    obtain ⟨hash, hashed, h⟩ := h
    have same : hash = book.hashOf job.userId :=
      (emailHash_eq_ok hashed).trans
        (SameUsers.hashOf_eq (sameUsers_of_debts _ (Amount.lower · amountSats) rfl) _)
    cases found : book.hashOf job.userId with
    | none =>
      rw [same, found] at h
      cases pure_eq_ok_iff.mp h
      simp only [paidOffRows, charge, price, found, Option.bind_some, Option.map_none]
      rfl
    | some hash =>
      rw [same, found] at h
      obtain rfl := lowerBlocklist_eq_ok h
      simp only [paidOffRows, charge, price, found, late, Option.bind_some, Option.map_some, if_true]
      rfl
  · rw [if_pos (by simp [late])] at h
    cases pure_eq_ok_iff.mp h
    have same : book.paidOffRows job paymentStatus now = book.blocklist := by
      unfold paidOffRows
      split
      · rw [if_neg late]
      · rfl
    rw [same]
    rfl

/-- What is read under an id after the row there was changed is the changed row. -/
private theorem shows_of_updateJobs (keyed : book.JobsKeyed) {row : JobRow}
    (member : row ∈ book.jobs) {update : JobRow → JobRow}
    (jobs : after.jobs = updateJobs book.jobs row.id update) {job : Job}
    (read : after.fetchJob row.id = .ok (some job)) : Shows (update row) job := by
  obtain ⟨found, present, same, shows⟩ := fetchJob_eq_some read
  rw [jobs] at present
  obtain ⟨other, old, rfl⟩ := List.mem_map.mp present
  by_cases here : other.id = row.id
  · obtain rfl := keyed.eq_of_id old member here
    simpa using shows
  · rw [if_neg here] at same
    exact (here same).elim

/-- A payment is taken for a job that is written off, or for an invoiced one that is under way. -/
theorem settlementTarget_eq_ok {job : Job} {next : JobStatus} {paymentStatus : String}
    (target : settlementTarget job = .ok (next, paymentStatus)) :
    (job.status = .completedReneged ∧ next = .completedEventual ∧ paymentStatus = "eventual") ∨
      (job.invoiceId ≠ none ∧ (job.status = .dispatched ∨ job.status = .active) ∧
        next = .completedPaid ∧ paymentStatus = "paid") := by
  unfold settlementTarget at target
  split at target
  · cases target
    exact .inl ⟨‹_›, rfl, rfl⟩
  · split at target
    · cases target
    · rename_i invoiced
      split at target
      · cases target
      · rename_i edge
        cases target
        refine .inr ⟨by simpa using invoiced, ?_, rfl, rfl⟩
        simp only [Bool.not_eq_true', Bool.not_eq_false] at edge
        revert edge
        cases job.status <;> decide

/-- A settlement reads its job, finds it payable, and writes. -/
theorem settle_eq_ok_of_found {id : String} {now : Instant} {answer : Job}
    (h : book.settle id now = .ok (answer, after)) :
    ∃ row job next paymentStatus, book.jobRow? id = some row ∧ Shows row job ∧
      job.status.isPaid = false ∧ settlementTarget job = .ok (next, paymentStatus) ∧
      after = { book.settled job next paymentStatus now with
        jobs := movedRows book.jobs row next now } ∧
      after.fetchJob id = .ok (some answer) := by
  simp only [settle, bind_eq_ok_iff, liftPayment_eq_ok_iff] at h
  obtain ⟨_, _, job, fetched, h⟩ := h
  cases job with
  | none => cases h
  | some job =>
    obtain ⟨row, found, read⟩ := fetchJob_eq_found fetched
    have shows := shows_of_readJob read
    simp only [throw_bind, guard_eq_ok_iff, bind_eq_ok_iff, liftPayment_eq_ok_iff,
      Bool.not_eq_true] at h
    obtain ⟨unpaid, ⟨next, paymentStatus⟩, target, _, moves, _, recorded, h⟩ := h
    rw [moveJob?_of_found found shows] at moves
    obtain rfl := recordMove_eq_ok moves
    obtain rfl := recordTransaction_eq_ok recorded
    suffices written : after = { book.settled job next paymentStatus now with
          jobs := movedRows book.jobs row next now } ∧ after.fetchJob id = .ok (some answer) from
      ⟨row, job, next, paymentStatus, found, shows, unpaid, target, written⟩
    split at h
    · rename_i amountSats price
      simp only [bind_eq_ok_iff, liftPayment_eq_ok_iff] at h
      obtain ⟨_, credited, answered, read, h⟩ := h
      cases answered with
      | none => cases h
      | some answered =>
        cases pure_eq_ok_iff.mp h
        refine ⟨?_, read⟩
        rw [creditPayment_eq_ok price credited, settled, price]
        rfl
    · rename_i price
      simp only [bind_eq_ok_iff, liftPayment_eq_ok_iff, pure_eq_ok_iff] at h
      obtain ⟨_, rfl, answered, read, h⟩ := h
      cases answered with
      | none => cases h
      | some answered =>
        cases pure_eq_ok_iff.mp h
        refine ⟨?_, read⟩
        rw [settled, price, paidOffRows, charge, price]
        simp [withMove]

/-- Where ids are told apart, a settlement moves its job and nothing else. -/
theorem settle_eq_ok (keyed : book.JobsKeyed) {id : String} {now : Instant} {job : Job}
    (h : book.settle id now = .ok (job, after)) :
    ∃ row ∈ book.jobs, ∃ found next paymentStatus, row.id = id ∧ Shows row found ∧
      found.status.isPaid = false ∧ settlementTarget found = .ok (next, paymentStatus) ∧
      Shows (movedRow next now row) job ∧ after = book.settled found next paymentStatus now := by
  obtain ⟨row, shown, next, paymentStatus, found, shows, unpaid, target, written, read⟩ :=
    settle_eq_ok_of_found h
  obtain ⟨member, rfl⟩ := jobRow?_eq_some found
  rw [movedRows_eq_updateJobs keyed member, ← shows.id] at written
  refine ⟨row, member, shown, next, paymentStatus, rfl, shows, unpaid, target, ?_, written⟩
  apply shows_of_updateJobs keyed member _ read
  rw [written, settled, shows.id]

theorem settleByInvoice_eq_ok {invoiceId : String} {now : Instant} {job : Job}
    (h : book.settleByInvoice invoiceId now = .ok (job, after)) :
    ∃ row ∈ book.jobs, row.invoiceId = some invoiceId ∧
      book.settle row.id now = .ok (job, after) := by
  simp only [settleByInvoice, ownerOfInvoice, bind_eq_ok_iff] at h
  obtain ⟨id, ⟨_, _, owner⟩, h⟩ := h
  split at owner
  · rename_i row found
    obtain rfl := pure_eq_ok_iff.mp owner
    exact ⟨row, List.mem_of_find?_eq_some found, by simpa using List.find?_some found, h⟩
  · cases owner

/-- The blocklist after a job was written off. -/
def dunnedRows (book : Book) (job : Job) (now : Instant) : List BlocklistRow :=
  match book.charge job with
  | some (hash, amountSats) => raisedRows book.blocklist hash amountSats now
  | none => book.blocklist

/-- The book with a job written off. -/
def writtenOff (book : Book) (job : Job) (now : Instant) : Book :=
  { book.withMove job.id (some job.status) .completedReneged .settlement none now with
    jobs := updateJobs book.jobs job.id (movedRow .completedReneged now)
    transactions :=
      recordRows book.transactions (transactionOf job "reneged" none now)
        fun row => { row with status := "reneged" }
    blocklist := book.dunnedRows job now }

theorem recordRenege_eq_ok (keyed : book.JobsKeyed) {id : String} {now : Instant} {job : Job}
    (h : book.recordRenege id now = .ok (job, after)) :
    ∃ row ∈ book.jobs, ∃ found, row.id = id ∧ Shows row found ∧
      found.status.canMoveTo .completedReneged ∧ after = book.writtenOff found now := by
  simp only [recordRenege, bind_eq_ok_iff, throw_bind, guard_eq_ok_iff, liftMove_eq_ok_iff] at h
  obtain ⟨found, read, allowed, _, moves, _, recorded, _, written, h⟩ := h
  obtain ⟨row, member, rfl, shows⟩ := requireJob_eq_ok read
  obtain rfl := moveJob_eq_ok keyed member shows moves
  obtain rfl := recordMove_eq_ok recorded
  obtain rfl := recordTransaction_eq_ok written
  refine ⟨row, member, found, rfl, shows, by simpa using allowed, ?_⟩
  split at h
  · rename_i price
    simp only [bind_eq_ok_iff, pure_eq_ok_iff] at h
    obtain ⟨_, rfl, _, _, h⟩ := h
    cases h
    rw [writtenOff, dunnedRows, charge, price, shows.id]
    rfl
  · rename_i amountSats price
    simp only [bind_eq_ok_iff, liftMove_eq_ok_iff] at h
    obtain ⟨hash, hashed, h⟩ := h
    have same : hash = book.hashOf found.userId := emailHash_eq_ok hashed
    split at h
    · rename_i hash
      simp only [bind_eq_ok_iff, liftMove_eq_ok_iff, pure_eq_ok_iff] at h
      obtain ⟨_, raised, _, _, h⟩ := h
      cases h
      obtain rfl := raiseBlocklist_eq_ok raised
      rw [writtenOff, dunnedRows, charge, price, ← same, shows.id]
      rfl
    · simp only [bind_eq_ok_iff, pure_eq_ok_iff] at h
      obtain ⟨_, rfl, _, _, h⟩ := h
      cases h
      rw [writtenOff, dunnedRows, charge, price, ← same, shows.id]
      rfl

end JobRelay.Book
