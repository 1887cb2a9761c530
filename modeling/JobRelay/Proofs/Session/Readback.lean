import JobRelay.Proofs.Session.Coherence

/-! # Rows that are read back

An operation that writes the row of a job ends by reading that row, and is refused if it cannot.
So clocks and reports may bring in whatever they like: no session leaves a job behind that cannot
be read, a table that is gone, or an invoice on two jobs.
-/

namespace JobRelay.Book

variable {book after : Book}

/-! ## What operations read last -/

/-- Every job of a book can be read. -/
def Readable (book : Book) : Prop :=
  ∀ row ∈ book.jobs, ∃ job, readJob row = .ok job

theorem jobRow?_of_mem (keyed : book.JobsKeyed) {row : JobRow} (member : row ∈ book.jobs) :
    book.jobRow? row.id = some row :=
  find?_of_mem keyed member

/-- A look-up that does not fail has read the row that it found. -/
private theorem readJob_of_fetchJob (keyed : book.JobsKeyed) {row : JobRow}
    (member : row ∈ book.jobs) {found : Option Job} (fetched : book.fetchJob row.id = .ok found) :
    ∃ job, readJob row = .ok job := by
  simp only [fetchJob, bind_eq_ok_iff, jobRow?_of_mem keyed member, readOptional] at fetched
  obtain ⟨_, _, read⟩ := fetched
  cases result : readJob row with
  | error fault => simp [result, Except.map] at read
  | ok job => exact ⟨job, rfl⟩

private theorem fetchJob_of_requireJob {id : String} {job : Job}
    (h : book.requireJob id = .ok job) : book.fetchJob id = .ok (some job) := by
  simp only [requireJob, bind_eq_ok_iff, liftMove_eq_ok_iff] at h
  obtain ⟨found, fetched, h⟩ := h
  cases found with
  | none => cases h
  | some found =>
    obtain rfl := pure_eq_ok_iff.mp h
    exact fetched

private theorem createJob_reads {id : String} {request : NewJob} {now : Instant} {job : Job}
    (h : book.createJob id request now = .ok (job, after)) :
    ∃ found, after.fetchJob id = .ok found := by
  simp only [createJob, bind_eq_ok_iff] at h
  obtain ⟨_, _, _, _, found, fetched, h⟩ := h
  cases found with
  | none => cases h
  | some found =>
    cases pure_eq_ok_iff.mp h
    exact ⟨_, fetched⟩

private theorem claimOne_reads {id : String} {now : Instant} {job : Option Job}
    (h : book.claimOne id now = .ok (job, after)) :
    after = book ∨ ∃ found, after.fetchJob id = .ok found := by
  simp only [claimOne, bind_eq_ok_iff] at h
  obtain ⟨_, _, h⟩ := h
  split at h
  · cases pure_eq_ok_iff.mp h
    exact .inl rfl
  · simp only [bind_eq_ok_iff, pure_eq_ok_iff] at h
    obtain ⟨_, _, _, fetched, h⟩ := h
    cases h
    exact .inr ⟨_, fetched⟩

private theorem applyReport_reads {id : String} {report : AgentReport} {now : Instant} {job : Job}
    (h : book.applyReport id report now = .ok (job, after)) :
    ∃ found, after.fetchJob id = .ok found := by
  simp only [applyReport, bind_eq_ok_iff, throw_bind, guard_eq_ok_iff, liftMove_eq_ok_iff,
    pure_eq_ok_iff] at h
  obtain ⟨_, _, _, _, _, _, _, _, read, h⟩ := h
  cases h
  exact ⟨_, fetchJob_of_requireJob read⟩

private theorem forceStatus_reads {id reason : String} {next : JobStatus} {now : Instant}
    {job : Job} (h : book.forceStatus id next reason now = .ok (job, after)) :
    ∃ found, after.fetchJob id = .ok found := by
  simp only [forceStatus, bind_eq_ok_iff, throw_bind, guard_eq_ok_iff, liftMove_eq_ok_iff,
    pure_eq_ok_iff] at h
  obtain ⟨_, _, _, _, _, _, _, _, _, read, h⟩ := h
  cases h
  exact ⟨_, fetchJob_of_requireJob read⟩

private theorem attachInvoice_reads {id invoiceId : String} {amountSats : Int} {now : Instant}
    {job : Job} (h : book.attachInvoice id amountSats invoiceId now = .ok (job, after)) :
    ∃ found, after.fetchJob id = .ok found := by
  simp only [attachInvoice, bind_eq_ok_iff, throw_bind, guard_eq_ok_iff] at h
  obtain ⟨found, _, _, h⟩ := h
  split at h
  · cases h
  · simp only [bind_eq_ok_iff, liftMove_eq_ok_iff, pure_eq_ok_iff] at h
    obtain ⟨_, _, _, _, _, _, _, read, h⟩ := h
    cases h
    exact ⟨_, fetchJob_of_requireJob read⟩

private theorem settle_reads {id : String} {now : Instant} {job : Job}
    (h : book.settle id now = .ok (job, after)) : ∃ found, after.fetchJob id = .ok found := by
  simp only [settle, bind_eq_ok_iff, liftPayment_eq_ok_iff] at h
  obtain ⟨_, _, found, _, h⟩ := h
  cases found with
  | none => cases h
  | some found =>
    simp only [throw_bind, guard_eq_ok_iff, bind_eq_ok_iff, liftPayment_eq_ok_iff] at h
    obtain ⟨_, _, _, _, _, _, _, h⟩ := h
    split at h
    all_goals
      simp only [bind_eq_ok_iff, liftPayment_eq_ok_iff] at h
      obtain ⟨_, _, answer, fetched, h⟩ := h
      cases answer with
      | none => cases h
      | some answer =>
        cases pure_eq_ok_iff.mp h
        exact ⟨_, fetched⟩

private theorem recordRenege_reads {id : String} {now : Instant} {job : Job}
    (h : book.recordRenege id now = .ok (job, after)) :
    ∃ found, after.fetchJob id = .ok found := by
  simp only [recordRenege, bind_eq_ok_iff, throw_bind, guard_eq_ok_iff, liftMove_eq_ok_iff] at h
  obtain ⟨_, _, _, _, _, _, _, _, _, h⟩ := h
  split at h
  · simp only [bind_eq_ok_iff, pure_eq_ok_iff] at h
    obtain ⟨_, _, _, read, h⟩ := h
    cases h
    exact ⟨_, fetchJob_of_requireJob read⟩
  · simp only [bind_eq_ok_iff, liftMove_eq_ok_iff] at h
    obtain ⟨_, _, h⟩ := h
    split at h
    all_goals
      simp only [bind_eq_ok_iff, liftMove_eq_ok_iff, pure_eq_ok_iff] at h
      obtain ⟨_, _, _, read, h⟩ := h
      cases h
      exact ⟨_, fetchJob_of_requireJob read⟩

/-! ## Every operation leaves readable jobs -/

private theorem mem_of_updateJobs {id : String} {update : JobRow → JobRow} {row : JobRow}
    (jobs : after.jobs = updateJobs book.jobs id update) (keeps : ∀ row, (update row).id = row.id)
    (present : row ∈ after.jobs) : row.id = id ∨ row ∈ book.jobs := by
  rw [jobs] at present
  obtain ⟨old, member, rfl⟩ := List.mem_map.mp present
  by_cases here : old.id = id
  · rw [if_pos here, keeps]
    exact .inl here
  · rw [if_neg here]
    exact .inr member

/-- An operation that has read the one job that it wrote leaves readable jobs. -/
private theorem Readable.of_reads (readable : book.Readable) (keyed : after.JobsKeyed) {id : String}
    (others : ∀ row ∈ after.jobs, row.id = id ∨ row ∈ book.jobs)
    (reads : ∃ found, after.fetchJob id = .ok found) : after.Readable := by
  intro row present
  rcases others row present with rfl | old
  · obtain ⟨_, fetched⟩ := reads
    exact readJob_of_fetchJob keyed present fetched
  · exact readable row old

/-- A waiting code is no part of what is read of a job. -/
private theorem Readable.coded (readable : book.Readable) (id : String) (code : Option String) :
    (book.updateJob id (codedRow code)).Readable := by
  intro row present
  obtain ⟨old, member, rfl⟩ := List.mem_map.mp present
  obtain ⟨job, read⟩ := readable old member
  by_cases here : old.id = id
  · rw [if_pos here]
    exact ⟨job, read⟩
  · rw [if_neg here]
    exact ⟨job, read⟩

theorem JobsKeyed.of_updateJobs (keyed : book.JobsKeyed) {id : String}
    {update : JobRow → JobRow} (jobs : after.jobs = updateJobs book.jobs id update)
    (keeps : ∀ row, (update row).id = row.id) : after.JobsKeyed := by
  rw [JobsKeyed, jobs, map_updateJobs _ _ _ keeps]
  exact keyed

private theorem Change.jobsKeyed {deed : Deed} (change : Change book deed after)
    (keyed : book.JobsKeyed) : after.JobsKeyed := by
  cases change with
  | quiet steps =>
    induction steps with
    | refl => exact keyed
    | tail _ last ih => exact last.jobsKeyed ih
  | invoiced => exact keyed.of_updateJobs rfl fun _ => rfl
  | settled => exact keyed.of_updateJobs rfl fun _ => rfl
  | writtenOff => exact keyed.of_updateJobs rfl fun _ => rfl

private theorem claim_readable (keyed : book.JobsKeyed) (readable : book.Readable)
    {ids : List String} {now : Instant} {jobs : List Job}
    (h : book.claim now ids = .ok (jobs, after)) : after.Readable := by
  induction ids generalizing book jobs with
  | nil =>
    cases pure_eq_ok_iff.mp h
    exact readable
  | cons id ids ih =>
    simp only [claim, bind_eq_ok_iff, pure_eq_ok_iff] at h
    obtain ⟨⟨_, middle⟩, one, ⟨_, _⟩, rest, h⟩ := h
    cases h
    rcases claimOne_eq_ok keyed one with rfl | ⟨row, member, rfl, stands, rfl⟩
    · exact ih keyed readable rest
    · have step : Quiet book _ := .moved member stands .dispatched now
      have next := step.jobsKeyed keyed
      rcases claimOne_reads one with same | reads
      · rw [same] at rest
        exact ih keyed readable rest
      · exact ih next (readable.of_reads next
          (fun _ => mem_of_updateJobs rfl fun _ => rfl) reads) rest

/-- What a successful operation leaves behind can be read. -/
theorem apply_readable (keyed : book.JobsKeyed) (readable : book.Readable)
    {operation : Operation} {reply : Reply} (h : operation.apply book = .ok (reply, after)) :
    after.Readable := by
  have next := (apply_change keyed h).jobsKeyed keyed
  cases operation with
  | createUser id email status now =>
    simp only [Operation.apply] at h
    split at h
    · rename_i created
      cases h
      obtain ⟨_, rfl⟩ := createUser_eq_ok created
      exact readable
    · cases h
  | createJob id request now =>
    obtain ⟨job, created, _⟩ := answer_eq_ok h
    obtain ⟨_, _, rfl⟩ := createJob_eq_ok created
    refine readable.of_reads next (fun row present => ?_) (createJob_reads created)
    rcases List.mem_append.mp present with old | new
    · exact .inr old
    · obtain rfl := List.mem_singleton.mp new
      exact .inl rfl
  | claim ids now =>
    obtain ⟨jobs, claimed, _⟩ := answer_eq_ok h
    exact claim_readable keyed readable claimed
  | applyReport id report now =>
    obtain ⟨job, reported, _⟩ := answer_eq_ok h
    obtain ⟨row, _, rfl, _, _, _, _, rfl⟩ := applyReport_eq_ok keyed reported
    exact readable.of_reads next (fun _ => mem_of_updateJobs rfl fun _ => rfl)
      (applyReport_reads reported)
  | attachInvoice id amountSats invoiceId now =>
    obtain ⟨job, attached, _⟩ := answer_eq_ok h
    obtain ⟨row, _, found, rfl, shows, _, _, _, _, rfl⟩ := attachInvoice_eq_ok attached
    exact readable.of_reads next
      (fun _ => mem_of_updateJobs (confined_invoiced shows amountSats invoiceId now).jobs
        fun _ => rfl)
      (attachInvoice_reads attached)
  | submitOtp id code =>
    simp only [Operation.apply] at h
    split at h
    · rename_i submitted
      cases h
      obtain ⟨_, _, _, _, rfl⟩ := submitOtp_eq_ok keyed submitted
      exact readable.coded id _
    · cases h
  | takeOtp id =>
    obtain ⟨code, taken, _⟩ := answer_eq_ok h
    rcases takeOtp_eq_ok taken with rfl | rfl
    · exact readable
    · exact readable.coded id none
  | forceStatus id status reason now =>
    obtain ⟨job, forced, _⟩ := answer_eq_ok h
    obtain ⟨row, _, rfl, _, _, _, _, rfl⟩ := forceStatus_eq_ok keyed forced
    exact readable.of_reads next (fun _ => mem_of_updateJobs rfl fun _ => rfl)
      (forceStatus_reads forced)
  | settle id now =>
    obtain ⟨job, settled, _⟩ := answer_eq_ok h
    obtain ⟨row, _, found, status, word, rfl, shows, _, _, _, rfl⟩ := settle_eq_ok keyed settled
    exact readable.of_reads next
      (fun _ => mem_of_updateJobs (confined_settled shows status word now).jobs fun _ => rfl)
      (settle_reads settled)
  | settleByInvoice invoiceId now =>
    obtain ⟨job, settled, _⟩ := answer_eq_ok h
    obtain ⟨owner, _, _, settled⟩ := settleByInvoice_eq_ok settled
    obtain ⟨row, _, found, status, word, same, shows, _, _, _, rfl⟩ := settle_eq_ok keyed settled
    refine readable.of_reads next (fun _ => ?_) (settle_reads settled)
    rw [← same]
    exact mem_of_updateJobs (confined_settled shows status word now).jobs fun _ => rfl
  | recordRenege id now =>
    obtain ⟨job, reneged, _⟩ := answer_eq_ok h
    obtain ⟨row, _, found, rfl, shows, _, rfl⟩ := recordRenege_eq_ok keyed reneged
    exact readable.of_reads next
      (fun _ => mem_of_updateJobs (confined_writtenOff shows now).jobs fun _ => rfl)
      (recordRenege_reads reneged)

/-! ## Tables and invoices -/

/-- No two jobs carry one invoice. -/
def InvoicesKeyed (book : Book) : Prop :=
  ∀ row ∈ book.jobs, ∀ other ∈ book.jobs, ∀ invoiceId,
    row.invoiceId = some invoiceId → other.invoiceId = some invoiceId → row.id = other.id

/-- Every invoice that is carried afterwards was carried by the same job before. -/
def KeepsInvoices (book after : Book) : Prop :=
  ∀ row ∈ after.jobs, row.invoiceId = none ∨
    ∃ old ∈ book.jobs, old.id = row.id ∧ old.invoiceId = row.invoiceId

theorem KeepsInvoices.of_jobs (jobs : after.jobs = book.jobs) : KeepsInvoices book after :=
  fun row present => .inr ⟨row, jobs ▸ present, rfl, rfl⟩

private theorem KeepsInvoices.trans {last : Book} (first : KeepsInvoices book after)
    (second : KeepsInvoices after last) : KeepsInvoices book last := by
  intro row present
  rcases second row present with free | ⟨old, member, same, invoice⟩
  · exact .inl free
  · rcases first old member with free | ⟨oldest, listed, same', invoice'⟩
    · exact .inl (invoice.symm.trans free)
    · exact .inr ⟨oldest, listed, same'.trans same, invoice'.trans invoice⟩

private theorem KeepsInvoices.of_updateJobs {id : String} {update : JobRow → JobRow}
    (jobs : after.jobs = updateJobs book.jobs id update) (keeps : ∀ row, (update row).id = row.id)
    (invoice : ∀ row, (update row).invoiceId = row.invoiceId) : KeepsInvoices book after := by
  intro row present
  rw [jobs] at present
  obtain ⟨old, member, rfl⟩ := List.mem_map.mp present
  refine .inr ⟨old, member, ?_⟩
  by_cases here : old.id = id
  · rw [if_pos here, keeps, invoice]
    exact ⟨rfl, rfl⟩
  · rw [if_neg here]
    exact ⟨rfl, rfl⟩

theorem Quiet.keepsInvoices (step : Quiet book after) : KeepsInvoices book after := by
  cases step with
  | userAdded => exact .of_jobs rfl
  | jobAdded id request now =>
    intro row present
    rcases List.mem_append.mp present with old | new
    · exact .inr ⟨row, old, rfl, rfl⟩
    · obtain rfl := List.mem_singleton.mp new
      exact .inl rfl
  | moved _ _ law now =>
    exact .of_updateJobs rfl (fun row => (law.sameTerms now row).id)
      fun row => (law.sameTerms now row).invoiceId
  | coded => exact .of_updateJobs rfl (fun _ => rfl) fun _ => rfl

/-- A change that puts no invoice on a job keeps the invoices where they are. -/
theorem Change.keepsInvoices {deed : Deed} (change : Change book deed after)
    (other : ∀ id amountSats, deed ≠ .invoiced id amountSats) : KeepsInvoices book after := by
  cases change with
  | quiet steps =>
    induction steps with
    | refl => exact .of_jobs rfl
    | tail _ last ih => exact ih.trans last.keepsInvoices
  | invoiced => exact (other _ _ rfl).elim
  | settled => exact .of_updateJobs rfl (fun _ => rfl) fun _ => rfl
  | writtenOff => exact .of_updateJobs rfl (fun _ => rfl) fun _ => rfl

/-- Where invoices stay where they are, none comes onto a second job. -/
theorem InvoicesKeyed.of_kept (unique : book.InvoicesKeyed) (kept : KeepsInvoices book after) :
    after.InvoicesKeyed := by
  intro row present other listed invoiceId carries shares
  rcases kept row present with free | ⟨old, member, same, invoice⟩
  · rw [free] at carries
    cases carries
  · rcases kept other listed with free | ⟨old', member', same', invoice'⟩
    · rw [free] at shares
      cases shares
    · rw [← same, ← same']
      exact unique old member old' member' invoiceId (invoice.trans carries)
        (invoice'.trans shares)

/-- An invoice that no other job carries goes onto a job. -/
private theorem InvoicesKeyed.invoiced (unique : book.InvoicesKeyed) {row : JobRow} {job : Job}
    (shows : Shows row job) (amountSats : Int) {invoiceId : String}
    (unused : ∀ other ∈ book.jobs, other.id ≠ row.id → other.invoiceId ≠ some invoiceId)
    (now : Instant) : (book.invoiced job amountSats invoiceId now).InvoicesKeyed := by
  -- A row of the new table is the invoiced job or an old row.
  have origin : ∀ next ∈ (book.invoiced job amountSats invoiceId now).jobs,
      (next.id = row.id ∧ next.invoiceId = some invoiceId) ∨
        (next ∈ book.jobs ∧ next.id ≠ row.id) := by
    intro next present
    rw [Book.invoiced, shows.id] at present
    obtain ⟨old, member, rfl⟩ := List.mem_map.mp present
    by_cases here : old.id = row.id
    · rw [if_pos here]
      exact .inl ⟨here, rfl⟩
    · rw [if_neg here]
      exact .inr ⟨member, here⟩
  intro first present second listed shared carries shares
  rcases origin first present with ⟨here, invoice⟩ | ⟨old, apart⟩ <;>
    rcases origin second listed with ⟨here', invoice'⟩ | ⟨old', apart'⟩
  · rw [here, here']
  · rw [invoice] at carries
    exact (unused second old' apart' (shares.trans carries.symm)).elim
  · rw [invoice'] at shares
    exact (unused first old apart (carries.trans shares.symm)).elim
  · exact unique first old second old' shared carries shares

/-- What every book of a session is fit for: its tables are there, its jobs are told apart and
can be read, and so are their invoices. -/
structure Intact (book : Book) : Prop where
  tables : book.missing = []
  jobsKeyed : book.JobsKeyed
  readable : book.Readable
  invoicesKeyed : book.InvoicesKeyed

/-- The job that carries an invoice is the one that is found under it. -/
theorem Intact.find?_invoice (intact : book.Intact) {row : JobRow} (member : row ∈ book.jobs)
    {invoiceId : String} (carries : row.invoiceId = some invoiceId) :
    book.jobs.find? (·.invoiceId == some invoiceId) = some row := by
  cases found : book.jobs.find? (·.invoiceId == some invoiceId) with
  | none =>
    have apart := List.find?_eq_none.mp found row member
    simp [carries] at apart
  | some other =>
    have listed := List.mem_of_find?_eq_some found
    have shares : other.invoiceId = some invoiceId := by simpa using List.find?_some found
    have same := intact.invoicesKeyed other listed row member invoiceId shares carries
    rw [intact.jobsKeyed.eq_of_id listed member same]

private theorem Quiet.missing (step : Quiet book after) : after.missing = book.missing := by
  cases step <;> rfl

private theorem Change.missing {deed : Deed} (change : Change book deed after) :
    after.missing = book.missing := by
  cases change with
  | quiet steps => exact steps_eq _ Quiet.missing steps
  | invoiced => rfl
  | settled => rfl
  | writtenOff => rfl

private theorem Change.invoicesKeyed {deed : Deed} (change : Change book deed after)
    (unique : book.InvoicesKeyed) : after.InvoicesKeyed := by
  cases change with
  | invoiced member shows uninvoiced started underWay amountSats unused now =>
    exact unique.invoiced shows amountSats unused now
  | quiet steps => exact unique.of_kept ((Change.quiet steps).keepsInvoices nofun)
  | settled => exact unique.of_kept (.of_updateJobs rfl (fun _ => rfl) fun _ => rfl)
  | writtenOff => exact unique.of_kept (.of_updateJobs rfl (fun _ => rfl) fun _ => rfl)

theorem intact_empty : Intact .empty where
  tables := rfl
  jobsKeyed := .nil
  readable _ member := by cases member
  invoicesKeyed _ member := by cases member

/-- A book is fit for operations whatever alerts it holds. -/
theorem Intact.withAlerts (intact : book.Intact) (alerts : List AlertRow) (lastAlert : Nat) :
    Intact { book with alerts, lastAlert } :=
  ⟨intact.tables, intact.jobsKeyed, intact.readable, intact.invoicesKeyed⟩

theorem Intact.perform (intact : book.Intact) (operation : Operation) :
    (book.perform operation).2.Intact := by
  have change := perform_change intact.jobsKeyed operation
  refine ⟨change.missing.trans intact.tables, change.jobsKeyed intact.jobsKeyed, ?_,
    change.invoicesKeyed intact.invoicesKeyed⟩
  unfold Book.perform atomically
  cases result : operation.apply book with
  | error refusal => exact intact.readable
  | ok outcome => exact apply_readable intact.jobsKeyed intact.readable result

theorem Intact.session (intact : book.Intact) (operations : List Operation) :
    (book.session operations).2.Intact := by
  induction operations generalizing book with
  | nil => exact intact
  | cons operation rest ih => exact ih (intact.perform operation)

end JobRelay.Book
