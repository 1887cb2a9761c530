import JobRelay.Proofs.Calendar.Stored
import JobRelay.Proofs.Session.Readback

/-! # Which invoices can be paid

In a book of a session every statement of a settlement goes through, so a payment under an invoice
has one outcome that the status of the job decides. Payment follows the edges of the lifecycle: it
is taken while the job is dispatched or active, and turned away, with nothing written, while the
job is on outreach, snoozed or waiting for a code, although invoices are put on jobs there.
-/

namespace JobRelay.Book

variable {book : Book}

/-! ## Statements that go through -/

section Tables

variable (tables : book.missing = [])
include tables

theorem need_of_tables (table : Table) : book.need table = .ok () := by
  simp [need, tables]

theorem recordMove_of_tables (jobId : String) (fromStatus : Option JobStatus)
    (toStatus : JobStatus) (actor : Actor) (reason : Option String) (now : Instant) :
    book.recordMove jobId fromStatus toStatus actor reason now =
      .ok (book.withMove jobId fromStatus toStatus actor reason now) := by
  rw [recordMove, need_of_tables tables]
  rfl

theorem recordTransaction_of_tables (fresh : TransactionRow)
    (change : TransactionRow → TransactionRow) :
    book.recordTransaction fresh change =
      .ok { book with transactions := recordRows book.transactions fresh change } := by
  rw [recordTransaction, need_of_tables tables, recordRows]
  by_cases known : book.transactions.any (·.jobId == fresh.jobId)
  · simp only [known, if_true]
    rfl
  · simp only [known]
    rfl

theorem changeDebt_of_nonneg (userId : String) {change : Int → Int}
    (floor : ∀ user ∈ book.users, 0 ≤ change user.debtSats) :
    book.changeDebt userId change =
      .ok (book.updateUser userId fun row => { row with debtSats := change row.debtSats }) := by
  have none : (book.users.any fun row => row.id == userId && change row.debtSats < 0) = false := by
    rw [List.any_eq_false]
    intro user member
    simp [Int.not_lt.mpr (floor user member)]
  rw [changeDebt, need_of_tables tables, none]
  rfl

private theorem recordRevenue_of_tables (job : Job) (amountSats : Int) (paymentStatus : String)
    (now : Instant) :
    book.recordRevenue job amountSats paymentStatus now =
      .ok (book.withRevenue (book.revenueRow job amountSats paymentStatus now)) := by
  rw [recordRevenue, need_of_tables tables]
  rfl

private theorem emailHash_of_tables (userId : String) :
    book.emailHash userId = .ok (book.hashOf userId) := by
  rw [emailHash, need_of_tables tables]
  rfl

private theorem lowerBlocklist_of_tables (hash : String) (amountSats : Int) (now : Instant) :
    book.lowerBlocklist hash amountSats now =
      .ok { book with blocklist := loweredRows book.blocklist hash amountSats now } := by
  rw [lowerBlocklist, need_of_tables tables]
  rfl

private theorem raiseBlocklist_of_tables (hash : String) (amountSats : Int) (now : Instant) :
    book.raiseBlocklist hash amountSats now =
      .ok { book with blocklist := raisedRows book.blocklist hash amountSats now } := by
  rw [raiseBlocklist, need_of_tables tables, raisedRows]
  by_cases known : book.blocklist.any (·.emailHash == hash)
  · simp only [known, if_true]
    rfl
  · simp only [known]
    rfl

/-- A payment is booked whatever the debts are. -/
private theorem creditPayment_of_tables {job : Job} {amountSats : Int}
    (price : positivePrice job = some amountSats) (paymentStatus : String) (now : Instant) :
    book.creditPayment job amountSats paymentStatus now =
      .ok { book with
        users := debtRows book.users job.userId (Amount.lower · amountSats)
        ledger := book.ledger ++ [book.revenueRow job amountSats paymentStatus now]
        lastLedger := book.lastLedger + 1
        blocklist := book.paidOffRows job paymentStatus now } := by
  suffices succeeds : ∃ paid, book.creditPayment job amountSats paymentStatus now = .ok paid by
    obtain ⟨paid, credited⟩ := succeeds
    rw [credited, creditPayment_eq_ok price credited]
  refine bind_succeeds (changeDebt_of_nonneg tables job.userId fun user _ => Amount.lower_nonneg ..) ?_
  refine bind_succeeds (recordRevenue_of_tables (by exact tables) ..) ?_
  by_cases prompt : paymentStatus != "eventual"
  · exact ⟨_, if_pos prompt⟩
  · rw [if_neg prompt]
    refine bind_succeeds (emailHash_of_tables (by exact tables) _) ?_
    split
    · exact ⟨_, lowerBlocklist_of_tables (by exact tables) ..⟩
    · exact ⟨_, rfl⟩

end Tables

theorem readInstant_stored {now : Instant} (dated : now.Dated) :
    readInstant now.stored = .ok now.toMillis := by
  rw [readInstant, dated.read?_stored]

theorem readName_status (status : JobStatus) : readName status.name = .ok status := by
  simp only [readName]
  rw [show Named.ofName? status.name = some status from JobStatus.ofName?_name status]

/-- A row that can be read still can be with another status, time and invoice, and shows these. -/
theorem readJob_update {row : JobRow} {job : Job} (read : readJob row = .ok job)
    {status since : String} {next : JobStatus} {moved : Instant}
    (named : readName status = .ok next) (dated : readInstant since = .ok moved)
    (amountSats : Option Int) (invoiceId : Option String) :
    readJob { row with status, statusUpdatedAt := since, amountSats, invoiceId } =
      .ok { job with status := next, statusUpdatedAt := moved, amountSats, invoiceId } := by
  simp only [readJob, bind_eq_ok_iff, pure_eq_ok_iff] at read ⊢
  obtain ⟨action, h1, trigger, h2, count, h3, _, _, _, _, date, h4, last, h5, time, h6, created, h7,
    rfl⟩ := read
  exact ⟨action, h1, trigger, h2, count, h3, next, named, moved, dated, date, h4, last, h5, time, h6,
    created, h7, rfl⟩

theorem readJob_movedRow {row : JobRow} {job : Job} (read : readJob row = .ok job)
    (next : JobStatus) {now stored : Instant} (dated : readInstant now.stored = .ok stored) :
    readJob (movedRow next now row) =
      .ok { job with status := next, statusUpdatedAt := stored } := by
  have shows := shows_of_readJob read
  have updated := readJob_update read (readName_status next) dated row.amountSats row.invoiceId
  refine updated.trans ?_
  rw [← shows.amountSats, ← shows.invoiceId]

theorem readJob_pricedRow {row : JobRow} {job : Job} (read : readJob row = .ok job)
    (amountSats : Int) (invoiceId : String) :
    readJob (pricedRow amountSats invoiceId row) =
      .ok { job with amountSats := some amountSats, invoiceId := some invoiceId } := by
  have named : readName row.status = .ok job.status :=
    (shows_of_readJob read).status ▸ readName_status job.status
  exact readJob_update read named (readInstant_of_readJob read) (some amountSats) (some invoiceId)

/-! ## Outcomes of a settlement -/

variable {row : JobRow} {job : Job}

theorem jobRow?_updateJobs (keyed : book.JobsKeyed) (member : row ∈ book.jobs) {after : Book}
    {update : JobRow → JobRow} (jobs : after.jobs = updateJobs book.jobs row.id update)
    (keeps : ∀ row, (update row).id = row.id) : after.jobRow? row.id = some (update row) := by
  have present : update row ∈ after.jobs := by
    rw [jobs]
    exact List.mem_map.mpr ⟨row, member, if_pos rfl⟩
  have found := jobRow?_of_mem (keyed.of_updateJobs jobs keeps) present
  rwa [keeps] at found

theorem fetchJob_of_found (tables : book.missing = []) {id : String}
    (found : book.jobRow? id = some row) : book.fetchJob id = (readJob row).map some := by
  rw [fetchJob, need_of_tables tables, found]
  rfl

private theorem requireJob_eq_readJob (tables : book.missing = []) {id : String}
    (found : book.jobRow? id = some row) : book.requireJob id = (readJob row).mapError .store := by
  rw [requireJob, fetchJob_of_found tables found]
  cases readJob row <;> rfl

theorem requireJob_of_found (tables : book.missing = []) {id : String}
    (found : book.jobRow? id = some row) (read : readJob row = .ok job) :
    book.requireJob id = .ok job := by
  rw [requireJob_eq_readJob tables found, read]
  rfl

theorem fetchJob_of_mem (intact : book.Intact) (member : row ∈ book.jobs)
    (read : readJob row = .ok job) : book.fetchJob row.id = .ok (some job) := by
  rw [fetchJob_of_found intact.tables (jobRow?_of_mem intact.jobsKeyed member), read]
  rfl

/-- A job that is there is read before anything is done with it. -/
private theorem bind_fetchJob {α : Type} {id : String} {read : Except StoreError Job}
    (fetched : book.fetchJob id = read.map some) (next : Option Job → Except SettlementError α) :
    ((liftM (book.fetchJob id) : Except SettlementError (Option Job)) >>= next) =
      read.mapError .store >>= fun job => next (some job) := by
  rw [fetched]
  cases read <;> rfl

/-- A settlement that finds its target answers the moved row, if it can be read. -/
theorem settle_eq (intact : book.Intact) (member : row ∈ book.jobs) (read : readJob row = .ok job)
    (unpaid : job.status.isPaid = false) {next : JobStatus} {paymentStatus : String}
    (target : settlementTarget job = .ok (next, paymentStatus)) (now : Instant) :
    book.settle row.id now =
      match readJob (movedRow next now row) with
      | .ok answer => .ok (answer, book.settled job next paymentStatus now)
      | .error fault => .error (.store fault) := by
  have shows := shows_of_readJob read
  have tables := intact.tables
  have fetched := fetchJob_of_mem intact member read
  have moved {after : Book}
      (jobs : after.jobs = updateJobs book.jobs row.id (movedRow next now)) :
      after.jobRow? row.id = some (movedRow next now row) :=
    jobRow?_updateJobs intact.jobsKeyed member jobs fun _ => rfl
  unfold settle
  refine (bind_of_eq_ok (liftPayment_eq_ok_iff.mpr (need_of_tables tables .jobs))).trans ?_
  refine (bind_of_eq_ok (liftPayment_eq_ok_iff.mpr fetched)).trans ?_
  simp only [unpaid]
  refine (bind_of_eq_ok target).trans ?_
  rw [shows.id, moveJob?_of_stands intact.jobsKeyed member shows.status]
  refine (bind_of_eq_ok (liftPayment_eq_ok_iff.mpr
    (recordMove_of_tables (by exact tables) ..))).trans ?_
  refine (bind_of_eq_ok (liftPayment_eq_ok_iff.mpr
    (recordTransaction_of_tables (by exact tables) ..))).trans ?_
  split
  · rename_i amountSats price
    refine (bind_of_eq_ok (liftPayment_eq_ok_iff.mpr
      (creditPayment_of_tables (by exact tables) price ..))).trans ?_
    refine (bind_fetchJob (fetchJob_of_found (by exact tables) (moved rfl)) _).trans ?_
    rw [settled, price, shows.id]
    cases readJob (movedRow next now row) <;> rfl
  · rename_i price
    refine (bind_fetchJob (fetchJob_of_found (by exact tables) (moved rfl)) _).trans ?_
    rw [settled, price, paidOffRows, charge, price, shows.id, Option.toList_none, List.map_nil,
      List.append_nil]
    cases readJob (movedRow next now row) <;> rfl

/-- A settlement without a target is refused. -/
theorem settle_of_refused (intact : book.Intact) (member : row ∈ book.jobs)
    (read : readJob row = .ok job) (unpaid : job.status.isPaid = false) {cause : SettlementError}
    (refused : settlementTarget job = .error cause) (now : Instant) :
    book.settle row.id now = .error cause := by
  have fetched := fetchJob_of_mem intact member read
  unfold settle
  refine (bind_of_eq_ok (liftPayment_eq_ok_iff.mpr (need_of_tables intact.tables .jobs))).trans ?_
  refine (bind_of_eq_ok (liftPayment_eq_ok_iff.mpr fetched)).trans ?_
  simp only [unpaid, refused]
  rfl

theorem settle_of_absent (intact : book.Intact) {id : String} (absent : book.jobRow? id = none)
    (now : Instant) : book.settle id now = .error (.notFound id) := by
  have fetched : book.fetchJob id = .ok none := by
    rw [fetchJob, need_of_tables intact.tables, absent]
    rfl
  unfold settle
  refine (bind_of_eq_ok (liftPayment_eq_ok_iff.mpr (need_of_tables intact.tables .jobs))).trans ?_
  exact bind_of_eq_ok (liftPayment_eq_ok_iff.mpr fetched)

/-- A write-off that its job allows answers the moved row, if it can be read. -/
theorem recordRenege_eq (intact : book.Intact) (member : row ∈ book.jobs)
    (read : readJob row = .ok job) (edge : job.status.canMoveTo .completedReneged) (now : Instant) :
    book.recordRenege row.id now =
      match readJob (movedRow .completedReneged now row) with
      | .ok answer => .ok (answer, book.writtenOff job now)
      | .error fault => .error (.store fault) := by
  have shows := shows_of_readJob read
  have tables := intact.tables
  have required := requireJob_of_found tables (jobRow?_of_mem intact.jobsKeyed member) read
  have moves : book.moveJob job .completedReneged now =
      .ok (book.updateJob row.id (movedRow .completedReneged now)) := by
    rw [moveJob, shows.id, moveJob?_of_stands intact.jobsKeyed member shows.status]
  have answers {after : Book} (written : after = book.writtenOff job now) :
      (do return (← after.requireJob row.id, after) : Except TransitionError (Job × Book)) =
        match readJob (movedRow .completedReneged now row) with
        | .ok answer => .ok (answer, book.writtenOff job now)
        | .error fault => .error (.store fault) := by
    have moved : after.jobRow? row.id = some (movedRow .completedReneged now row) :=
      jobRow?_updateJobs intact.jobsKeyed member (by rw [written, writtenOff, shows.id]) fun _ => rfl
    rw [requireJob_eq_readJob (by rw [written]; exact tables) moved, written]
    cases readJob (movedRow .completedReneged now row) <;> rfl
  unfold recordRenege
  refine (bind_of_eq_ok required).trans ?_
  simp only [edge, Bool.not_true, Bool.false_eq_true, if_false]
  refine (bind_of_eq_ok moves).trans ?_
  refine (bind_of_eq_ok (liftMove_eq_ok_iff.mpr
    (recordMove_of_tables (by exact tables) ..))).trans ?_
  refine (bind_of_eq_ok (liftMove_eq_ok_iff.mpr
    (recordTransaction_of_tables (by exact tables) ..))).trans ?_
  split
  · rename_i price
    refine answers ?_
    rw [writtenOff, dunnedRows, charge, price, shows.id]
    rfl
  · rename_i price
    refine (bind_of_eq_ok (liftMove_eq_ok_iff.mpr
      (emailHash_of_tables (by exact tables) _))).trans ?_
    split
    · rename_i hash owner
      have owner : book.hashOf job.userId = some hash := owner
      refine (bind_of_eq_ok (liftMove_eq_ok_iff.mpr
        (raiseBlocklist_of_tables (by exact tables) ..))).trans (answers ?_)
      rw [writtenOff, dunnedRows, charge, price, owner, shows.id]
      rfl
    · rename_i owner
      have owner : book.hashOf job.userId = none := owner
      refine answers ?_
      rw [writtenOff, dunnedRows, charge, price, owner, shows.id]
      rfl

/-- A write-off that its job does not allow is refused. -/
theorem recordRenege_of_refused (intact : book.Intact) (member : row ∈ book.jobs)
    (read : readJob row = .ok job) (refused : job.status.canMoveTo .completedReneged = false)
    (now : Instant) :
    book.recordRenege row.id now = .error (.forbidden job.status .completedReneged) := by
  have required :=
    requireJob_of_found intact.tables (jobRow?_of_mem intact.jobsKeyed member) read
  refine (bind_of_eq_ok required).trans ?_
  simp only [refused]
  rfl

theorem recordRenege_of_absent (intact : book.Intact) {id : String}
    (absent : book.jobRow? id = none) (now : Instant) :
    book.recordRenege id now = .error (.notFound id) := by
  rw [recordRenege, requireJob, fetchJob, need_of_tables intact.tables, absent]
  rfl

/-- An invoice leads to the job that carries it. -/
theorem ownerOfInvoice_eq (intact : book.Intact) (member : row ∈ book.jobs) {invoiceId : String}
    (carries : row.invoiceId = some invoiceId) : book.ownerOfInvoice invoiceId = .ok row.id := by
  refine (bind_of_eq_ok (liftPayment_eq_ok_iff.mpr (need_of_tables intact.tables .jobs))).trans ?_
  rw [intact.find?_invoice member carries]
  rfl

theorem settleByInvoice_eq (intact : book.Intact) (member : row ∈ book.jobs) {invoiceId : String}
    (carries : row.invoiceId = some invoiceId) (now : Instant) :
    book.settleByInvoice invoiceId now = book.settle row.id now :=
  bind_of_eq_ok (ownerOfInvoice_eq intact member carries)

/-! ## Payments under an invoice -/

/-- Where an open job with an invoice takes its payment. -/
def takesPayment : JobStatus → Bool
  | .dispatched | .active => true
  | _ => false

private theorem takesPayment_eq {status : JobStatus} (underWay : status.isTerminal = false) :
    status ≠ .completedReneged ∧ status.isPaid = false ∧
      status.canMoveTo .completedPaid = takesPayment status := by
  revert underWay
  cases status <;> decide

private theorem settlementTarget_of_invoiced {invoiceId : String}
    (carries : job.invoiceId = some invoiceId) (underWay : job.status.isTerminal = false) :
    settlementTarget job =
      if takesPayment job.status then .ok (.completedPaid, "paid")
      else .error (.notPayable job.id ("cannot settle from " ++ job.status.name)) := by
  obtain ⟨notReneged, _, edge⟩ := takesPayment_eq underWay
  rw [settlementTarget, if_neg notReneged, carries, edge]
  cases takesPayment job.status <;> rfl

/-- What becomes of a payment under the invoice of an open job: taken where the lifecycle has an
edge to the paid status, and turned away everywhere else without a trace. -/
structure PaymentOutcome (book : Book) (invoiceId : String) (job : Job) : Prop where
  taken : takesPayment job.status → ∀ now : Instant, now.Dated →
    book.perform (.settleByInvoice invoiceId now) =
      (.ok (.job { job with status := .completedPaid, statusUpdatedAt := now.toMillis }),
        book.settled job .completedPaid "paid" now)
  payable : takesPayment job.status → ∀ now jobId reason,
    (book.perform (.settleByInvoice invoiceId now)).1 ≠ .error (.payment (.notPayable jobId reason))
  refused : takesPayment job.status = false → ∀ now,
    book.perform (.settleByInvoice invoiceId now) =
      (.error (.payment (.notPayable job.id ("cannot settle from " ++ job.status.name))), book)

private theorem perform_settleByInvoice (book : Book) (invoiceId : String) (now : Instant) :
    book.perform (.settleByInvoice invoiceId now) =
      match book.settleByInvoice invoiceId now with
      | .ok (job, after) => (.ok (.job job), after)
      | .error cause => (.error (.payment cause), book) := by
  rw [perform, atomically, Operation.apply]
  cases book.settleByInvoice invoiceId now <;> rfl

/-- The status of an open job decides what becomes of a payment under its invoice. -/
theorem paymentOutcome_session (operations : List Operation) {row : JobRow}
    (member : row ∈ (Book.empty.session operations).2.jobs) {invoiceId : String}
    (carries : row.invoiceId = some invoiceId) :
    ∃ job, readJob row = .ok job ∧ (job.status.isTerminal = false →
      PaymentOutcome (Book.empty.session operations).2 invoiceId job) := by
  have intact := intact_empty.session operations
  generalize (Book.empty.session operations).2 = book at intact member ⊢
  obtain ⟨job, read⟩ := intact.readable row member
  refine ⟨job, read, fun underWay => ?_⟩
  have shows := shows_of_readJob read
  obtain ⟨_, unpaid, _⟩ := takesPayment_eq underWay
  have target := settlementTarget_of_invoiced (shows.invoiceId.trans carries) underWay
  have paid (takes : takesPayment job.status) (now : Instant) :
      book.settleByInvoice invoiceId now =
        match readJob (movedRow .completedPaid now row) with
        | .ok answer => .ok (answer, book.settled job .completedPaid "paid" now)
        | .error fault => .error (.store fault) := by
    rw [if_pos takes] at target
    rw [settleByInvoice_eq intact member carries, settle_eq intact member read unpaid target]
  refine ⟨?_, ?_, ?_⟩
  · intro takes now dated
    rw [perform_settleByInvoice, paid takes,
      readJob_movedRow read .completedPaid (readInstant_stored dated)]
  · intro takes now jobId reason
    rw [perform_settleByInvoice, paid takes]
    cases readJob (movedRow .completedPaid now row) <;> simp
  · intro refuses now
    rw [if_neg (by simp [refuses])] at target
    rw [perform_settleByInvoice, settleByInvoice_eq intact member carries,
      settle_of_refused intact member read unpaid target]

/-- A job is invoiced while the agent works on it, and then waits for a code. -/
def awaitedInvoice : List Operation :=
  [.createUser "u" none "active" ⟨0, 0⟩,
   .createJob "j" ⟨"u", "s", .cancel, .scheduled, none⟩ ⟨1, 0⟩,
   .claim ["j"] ⟨2, 0⟩,
   .applyReport "j" ⟨.active, none, none, none, none⟩ ⟨3, 0⟩,
   .attachInvoice "j" 700 "i" ⟨4, 0⟩,
   .applyReport "j" ⟨.awaitingOtp, none, none, none, none⟩ ⟨5, 0⟩]

theorem paymentOutcome_awaitedInvoice :
    ∃ row ∈ (Book.empty.session awaitedInvoice).2.jobs, row.invoiceId = some "i" ∧
      ∃ job, job.status = .awaitingOtp ∧
        PaymentOutcome (Book.empty.session awaitedInvoice).2 "i" job := by
  obtain ⟨row, member, carries, waits⟩ : ∃ row ∈ (Book.empty.session awaitedInvoice).2.jobs,
      row.invoiceId = some "i" ∧ row.status = JobStatus.awaitingOtp.name := by decide +kernel
  obtain ⟨job, read, outcome⟩ := paymentOutcome_session awaitedInvoice member carries
  have status : job.status = .awaitingOtp :=
    JobStatus.name_inj ((shows_of_readJob read).status.symm.trans waits)
  exact ⟨row, member, carries, job, status, outcome (by rw [status]; rfl)⟩

/-- An open job carries its invoice, and the payment is turned away. -/
theorem awaitedInvoice_refused :
    ∃ row ∈ (Book.empty.session awaitedInvoice).2.jobs, row.invoiceId = some "i" ∧
      row.status = JobStatus.awaitingOtp.name ∧ JobStatus.awaitingOtp.isTerminal = false ∧
      ((Book.empty.session awaitedInvoice).2.perform (.settleByInvoice "i" ⟨6, 0⟩)).1 =
        .error (.payment (.notPayable "j" "cannot settle from awaiting_otp")) := by
  decide +kernel

end JobRelay.Book
