import JobRelay.Proofs.Money.Payable

/-! # Invoices are written once

The job of a payment is looked up by its invoice before it is settled, and other operations may
come in between. That is safe because an invoice is written once: it stays with its job, on the
terms it was written with, and no other job ever carries it.
-/

namespace JobRelay.Book

variable {book after : Book} {row : JobRow}

/-! ## Terms are kept -/

private theorem SameTerms.refl (row : JobRow) : SameTerms row row :=
  ⟨rfl, rfl, rfl, rfl, rfl, rfl, rfl⟩

theorem SameTerms.trans {first second third : JobRow} (earlier : SameTerms first second)
    (next : SameTerms second third) : SameTerms first third where
  id := next.id.trans earlier.id
  userId := next.userId.trans earlier.userId
  serviceId := next.serviceId.trans earlier.serviceId
  action := next.action.trans earlier.action
  amountSats := next.amountSats.trans earlier.amountSats
  invoiceId := next.invoiceId.trans earlier.invoiceId
  createdAt := next.createdAt.trans earlier.createdAt

private theorem sameTerms_movedRow (next : JobStatus) (now : Instant) (row : JobRow) :
    SameTerms row (movedRow next now row) :=
  ⟨rfl, rfl, rfl, rfl, rfl, rfl, rfl⟩

/-- A job is still there, on the terms that it had. -/
def KeepsTerms (row : JobRow) (after : Book) : Prop :=
  ∃ other ∈ after.jobs, SameTerms row other

theorem KeepsTerms.of_mem (member : row ∈ after.jobs) : KeepsTerms row after :=
  ⟨row, member, .refl row⟩

private theorem KeepsTerms.of_updateJobs {id : String} {update : JobRow → JobRow}
    (member : row ∈ book.jobs) (jobs : after.jobs = updateJobs book.jobs id update)
    (terms : ∀ row, SameTerms row (update row)) : KeepsTerms row after := by
  refine ⟨if row.id = id then update row else row, ?_, ?_⟩
  · rw [jobs]
    exact List.mem_map_of_mem member
  · split
    · exact terms row
    · exact .refl row

theorem Quiet.keepsTerms (step : Quiet book after) (member : row ∈ book.jobs) :
    KeepsTerms row after := by
  cases step with
  | userAdded => exact .of_mem member
  | jobAdded => exact .of_mem (List.mem_append_left _ member)
  | moved _ _ law now => exact .of_updateJobs member rfl (law.sameTerms now)
  | coded id code => exact .of_updateJobs member rfl (sameTerms_codedRow code)

/-- Only a job without an invoice gets one, so every change leaves an invoiced job on its terms. -/
theorem Change.keepsTerms {deed : Deed} (change : Change book deed after) (keyed : book.JobsKeyed)
    (member : row ∈ book.jobs) (invoiced : row.invoiceId ≠ none) : KeepsTerms row after := by
  cases change with
  | quiet steps =>
    induction steps with
    | refl => exact .of_mem member
    | tail _ last ih =>
      obtain ⟨other, present, terms⟩ := ih
      obtain ⟨final, listed, kept⟩ := last.keepsTerms present
      exact ⟨final, listed, terms.trans kept⟩
  | @invoiced target present job shows uninvoiced started underWay amountSats invoiceId unused now =>
    have apart : row.id ≠ target.id := fun same => by
      obtain rfl := keyed.eq_of_id member present same
      exact invoiced (shows.invoiceId.symm.trans uninvoiced)
    refine .of_mem ?_
    rw [Book.invoiced, shows.id]
    exact List.mem_map.mpr ⟨row, member, if_neg apart⟩
  | settled => exact .of_updateJobs member rfl (sameTerms_movedRow _ _)
  | writtenOff => exact .of_updateJobs member rfl (sameTerms_movedRow _ _)

private theorem Intact.keepsTerms (intact : book.Intact) (operations : List Operation)
    (member : row ∈ book.jobs) (invoiced : row.invoiceId ≠ none) :
    KeepsTerms row (book.session operations).2 := by
  induction operations generalizing book row with
  | nil => exact .of_mem member
  | cons operation rest ih =>
    have change := perform_change intact.jobsKeyed operation
    obtain ⟨other, present, terms⟩ := change.keepsTerms intact.jobsKeyed member invoiced
    have carries : other.invoiceId ≠ none := by rwa [terms.invoiceId]
    obtain ⟨final, listed, kept⟩ := ih (intact.perform operation) present carries
    exact ⟨final, listed, terms.trans kept⟩

/-! ## Looking up and attaching -/

/-- The job that carries an invoice is found under it. -/
theorem findByInvoice_eq (intact : book.Intact) (member : row ∈ book.jobs) {invoiceId : String}
    (carries : row.invoiceId = some invoiceId) :
    ∃ job, readJob row = .ok job ∧ book.findByInvoice invoiceId = .ok (some job) := by
  obtain ⟨job, read⟩ := intact.readable row member
  refine ⟨job, read, ?_⟩
  rw [findByInvoice, need_of_tables intact.tables, intact.find?_invoice member carries]
  exact congrArg (·.map some) read

private theorem perform_attachInvoice_cases (book : Book) (id : String) (amountSats : Int)
    (invoiceId : String) (now : Instant) :
    (∃ cause, book.perform (.attachInvoice id amountSats invoiceId now) =
      (.error (.move cause), book)) ∨
    ∃ job after, book.attachInvoice id amountSats invoiceId now = .ok (job, after) ∧
      book.perform (.attachInvoice id amountSats invoiceId now) = (.ok (.job job), after) := by
  rw [perform, atomically, Operation.apply]
  cases result : book.attachInvoice id amountSats invoiceId now with
  | error cause => exact .inl ⟨cause, rfl⟩
  | ok outcome => exact .inr ⟨outcome.1, outcome.2, rfl, rfl⟩

/-- A job that carries an invoice gets no other one. -/
theorem attachInvoice_of_invoiced (keyed : book.JobsKeyed) (member : row ∈ book.jobs)
    (invoiced : row.invoiceId ≠ none) (amountSats : Int) (invoiceId : String) (now : Instant) :
    ∃ cause, book.perform (.attachInvoice row.id amountSats invoiceId now) =
      (.error (.move cause), book) := by
  rcases perform_attachInvoice_cases book row.id amountSats invoiceId now with
    refused | ⟨_, _, attached, _⟩
  · exact refused
  · obtain ⟨other, listed, found, same, shows, uninvoiced, _⟩ := attachInvoice_eq_ok attached
    obtain rfl := keyed.eq_of_id listed member same
    exact (invoiced (shows.invoiceId.symm.trans uninvoiced)).elim

/-- An invoice that a job carries is put on no other one. -/
theorem attachInvoice_of_taken (member : row ∈ book.jobs) {invoiceId : String}
    (carries : row.invoiceId = some invoiceId) {id : String} (other : row.id ≠ id)
    (amountSats : Int) (now : Instant) :
    ∃ cause, book.perform (.attachInvoice id amountSats invoiceId now) =
      (.error (.move cause), book) := by
  rcases perform_attachInvoice_cases book id amountSats invoiceId now with
    refused | ⟨_, _, attached, _⟩
  · exact refused
  · obtain ⟨_, _, _, _, _, _, _, _, unused, _⟩ := attachInvoice_eq_ok attached
    exact (unused row member other carries).elim

/-! ## Settling in two steps -/

/-- Settles the job that carries an invoice, with operations between looking it up and settling
it. Without any this is `settleByInvoice`. -/
def settleInSteps (book : Book) (invoiceId : String) (between : List Operation) (now : Instant) :
    Except SettlementError (Job × Book) := do
  (book.session between).2.settle (← book.ownerOfInvoice invoiceId) now

theorem settleInSteps_nil (book : Book) (invoiceId : String) (now : Instant) :
    book.settleInSteps invoiceId [] now = book.settleByInvoice invoiceId now := rfl

/-- What is done between the two steps does not lead the payment to another job. -/
theorem settleInSteps_eq (intact : book.Intact) (member : row ∈ book.jobs) {invoiceId : String}
    (carries : row.invoiceId = some invoiceId) (between : List Operation) (now : Instant) :
    book.settleInSteps invoiceId between now =
      (book.session between).2.settleByInvoice invoiceId now := by
  have invoiced : row.invoiceId ≠ none := by simp [carries]
  obtain ⟨other, listed, terms⟩ := intact.keepsTerms between member invoiced
  refine (bind_of_eq_ok (ownerOfInvoice_eq intact member carries)).trans ?_
  rw [settleByInvoice_eq (intact.session between) listed (terms.invoiceId.trans carries), terms.id]

/-! ## Every later book -/

/-- An invoice of a book in a later one: it leads to the job that it was put on, this job is on the
terms that it had, and nothing puts another invoice on a job or another job under an invoice. -/
structure WrittenOnce (book later : Book) (id : String) (amountSats : Int) (invoiceId : String) :
    Prop where
  found : ∃ job, later.findByInvoice invoiceId = .ok (some job) ∧ job.id = id ∧
    job.amountSats = some amountSats ∧ job.invoiceId = some invoiceId
  kept : ∃ row ∈ book.jobs, row.id = id ∧ row.amountSats = some amountSats ∧
    row.invoiceId = some invoiceId ∧ KeepsTerms row later
  sole : ∀ row ∈ later.jobs, row.invoiceId = some invoiceId → row.id = id
  closed : ∀ row ∈ later.jobs, row.invoiceId ≠ none → ∀ amountSats invoiceId now,
    ∃ cause, later.perform (.attachInvoice row.id amountSats invoiceId now) =
      (.error (.move cause), later)
  taken : ∀ row ∈ later.jobs, ∀ invoiceId, row.invoiceId = some invoiceId → ∀ id, row.id ≠ id →
    ∀ amountSats now, ∃ cause, later.perform (.attachInvoice id amountSats invoiceId now) =
      (.error (.move cause), later)
  inSteps : ∀ between now, later.settleInSteps invoiceId between now =
    (later.session between).2.settleByInvoice invoiceId now
  settled : ∀ between now job last, later.settleInSteps invoiceId between now = .ok (job, last) →
    job.id = id ∧ job.invoiceId = some invoiceId

/-- Settling in two steps settles the job that carried the invoice at the first of them. -/
theorem settled_of_settleInSteps (intact : book.Intact) (member : row ∈ book.jobs)
    {invoiceId : String} (carries : row.invoiceId = some invoiceId) {between : List Operation}
    {now : Instant} {job : Job} {last : Book}
    (settles : book.settleInSteps invoiceId between now = .ok (job, last)) :
    job.id = row.id ∧ job.invoiceId = some invoiceId := by
  have invoiced : row.invoiceId ≠ none := by simp [carries]
  obtain ⟨other, listed, terms⟩ := intact.keepsTerms between member invoiced
  have keyed := (intact.session between).jobsKeyed
  rw [settleInSteps, bind_of_eq_ok (ownerOfInvoice_eq intact member carries)] at settles
  obtain ⟨target, present, _, _, _, same, _, _, _, answered, _⟩ := settle_eq_ok keyed settles
  obtain rfl := keyed.eq_of_id present listed (same.trans terms.id.symm)
  exact ⟨answered.id.trans same, answered.invoiceId.trans (terms.invoiceId.trans carries)⟩

private theorem Intact.writtenOnce (intact : book.Intact) (operations : List Operation)
    (member : row ∈ book.jobs) {amountSats : Int} {invoiceId : String}
    (price : row.amountSats = some amountSats) (carries : row.invoiceId = some invoiceId) :
    WrittenOnce book (book.session operations).2 row.id amountSats invoiceId := by
  have later := intact.session operations
  have kept := intact.keepsTerms operations member (by simp [carries])
  generalize (book.session operations).2 = final at later kept ⊢
  obtain ⟨other, listed, terms⟩ := id kept
  have still := terms.invoiceId.trans carries
  refine ⟨?_, ⟨row, member, rfl, price, carries, kept⟩, ?_, ?_, ?_, ?_, ?_⟩
  · obtain ⟨job, read, found⟩ := findByInvoice_eq later listed still
    have shows := shows_of_readJob read
    exact ⟨job, found, shows.id.trans terms.id, shows.amountSats.trans (terms.amountSats.trans price),
      shows.invoiceId.trans still⟩
  · intro another present shares
    exact (later.invoicesKeyed another present other listed invoiceId shares still).trans terms.id
  · intro row present invoiced amountSats invoiceId now
    exact attachInvoice_of_invoiced later.jobsKeyed present invoiced amountSats invoiceId now
  · intro row present invoiceId shares id apart amountSats now
    exact attachInvoice_of_taken present shares apart amountSats now
  · exact settleInSteps_eq later listed still
  · intro between now job last settles
    obtain ⟨same, invoice⟩ := settled_of_settleInSteps later listed still settles
    exact ⟨same.trans terms.id, invoice⟩

/-- An invoice that was put on a job in a session is written once, whatever else is done. -/
theorem writtenOnce_session (operations further : List Operation) {id invoiceId : String}
    {amountSats : Int} {now : Instant} {reply : Reply} {book : Book}
    (attached : (Book.empty.session operations).2.perform
      (.attachInvoice id amountSats invoiceId now) = (.ok reply, book)) :
    WrittenOnce book (book.session further).2 id amountSats invoiceId := by
  have intact := intact_empty.session operations
  have next := intact.perform (.attachInvoice id amountSats invoiceId now)
  rw [attached] at next
  rcases perform_attachInvoice_cases (Book.empty.session operations).2 id amountSats invoiceId now
    with ⟨cause, refused⟩ | ⟨job, last, given, performed⟩
  · rw [refused] at attached
    cases attached
  · rw [performed] at attached
    cases attached
    obtain ⟨row, member, found, rfl, shows, _, _, _, _, rfl⟩ := attachInvoice_eq_ok given
    have priced : pricedRow amountSats invoiceId row ∈
        ((Book.empty.session operations).2.invoiced found amountSats invoiceId now).jobs := by
      rw [invoiced, shows.id]
      exact List.mem_map.mpr ⟨row, member, if_pos rfl⟩
    exact next.writtenOnce further priced rfl rfl

/-- The invoice of a job that is written off and forced on, while another one is paid late. -/
theorem writtenOnce_writeOffs : ∃ reply book,
    (Book.empty.session ((writeOffs none).take 5)).2.perform (.attachInvoice "j" 700 "i" ⟨3, 0⟩) =
        (.ok reply, book) ∧
      WrittenOnce book (book.session ((writeOffs none).drop 6)).2 "j" 700 "i" := by
  have accepted : ((Book.empty.session ((writeOffs none).take 5)).2.perform
      (.attachInvoice "j" 700 "i" ⟨3, 0⟩)).1.isOk := by decide +kernel
  cases attached : (Book.empty.session ((writeOffs none).take 5)).2.perform
      (.attachInvoice "j" 700 "i" ⟨3, 0⟩) with
  | mk result book =>
    cases result with
    | error cause => simp [attached, Except.isOk, Except.toBool] at accepted
    | ok reply =>
      exact ⟨reply, book, rfl, writtenOnce_session ((writeOffs none).take 5) _ attached⟩

end JobRelay.Book
