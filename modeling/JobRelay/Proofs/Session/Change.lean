import JobRelay.Proofs.Session.Effect
import JobRelay.Proofs.Session.Log

/-! # Changes of the book

Whatever an operation is and whether it succeeds, the book changes in one of four ways:
by quiet steps, by an invoice, by a settlement or by a write-off. `perform_change` is the only
place where operations are told apart; what holds of all four ways holds of every session.
-/

namespace JobRelay.Book

/-- A move of a job that carries no money, with who makes it, the reason that is recorded and what
is written beside the status. -/
inductive LawfulMove :
    JobStatus → JobStatus → Actor → Option String → (JobRow → JobRow) → Prop
  | dispatched : LawfulMove .pending .dispatched .agent none fun row => row
  | reported {current : JobStatus} (report : AgentReport)
      (reportable : report.status.isAgentReportable) (edge : current.canMoveTo report.status) :
      LawfulMove current report.status .agent report.note (reportedRow report)
  | forced {current next : JobStatus} (reason : String)
      (given : (Text.trim reason).isEmpty = false) (allowed : current.canForceTo next) :
      LawfulMove current next .operator (some (Text.trim reason)) fun row => row

/-- Two rows with the same job and the same price. -/
structure SameTerms (row other : JobRow) : Prop where
  id : other.id = row.id
  userId : other.userId = row.userId
  serviceId : other.serviceId = row.serviceId
  action : other.action = row.action
  amountSats : other.amountSats = row.amountSats
  invoiceId : other.invoiceId = row.invoiceId
  createdAt : other.createdAt = row.createdAt

theorem sameTerms_codedRow (code : Option String) (row : JobRow) :
    SameTerms row (codedRow code row) :=
  ⟨rfl, rfl, rfl, rfl, rfl, rfl, rfl⟩

namespace LawfulMove

variable {current next : JobStatus} {actor : Actor} {reason : Option String}
  {note : JobRow → JobRow}

/-- The note of a move leaves the terms of the job alone. -/
theorem sameTerms (law : LawfulMove current next actor reason note) (now : Instant)
    (row : JobRow) : SameTerms row (note (movedRow next now row)) := by
  cases law <;> exact ⟨rfl, rfl, rfl, rfl, rfl, rfl, rfl⟩

theorem status_note (law : LawfulMove current next actor reason note) (now : Instant)
    (row : JobRow) : (note (movedRow next now row)).status = next.name := by
  cases law <;> rfl

/-- A move that carries no money may be made by who makes it. -/
theorem mayMove (law : LawfulMove current next actor reason note) :
    MayMove actor current next reason := by
  cases law with
  | dispatched => exact .dispatched
  | reported report reportable edge => exact .reported report.note reportable edge
  | forced reason given allowed => exact .forced reason given allowed

/-- Outcomes that carry money are left to settlement. -/
theorem not_settlementOwned (law : LawfulMove current next actor reason note) :
    next.isSettlementOwned = false := by
  rw [Bool.eq_false_iff]
  intro owned
  obtain rfl := law.mayMove.of_settlementOwned owned
  cases law

/-- A job that is over stays over. -/
theorem isTerminal (law : LawfulMove current next actor reason note)
    (ended : current.isTerminal) : next.isTerminal :=
  law.mayMove.isTerminal ended

end LawfulMove

/-- A step of the book that touches no payment record, no ledger entry and no blocklist row. -/
inductive Quiet : Book → Book → Prop
  | userAdded {book : Book} (row : UserRow) (fresh : ∀ user ∈ book.users, user.id ≠ row.id)
      (debtless : row.debtSats = 0) : Quiet book { book with users := book.users ++ [row] }
  | jobAdded {book : Book} (id : String) (request : NewJob) (now : Instant)
      (fresh : ∀ row ∈ book.jobs, row.id ≠ id)
      (owner : ∃ user ∈ book.users, user.id = request.userId) :
      Quiet book (book.jobAdded id request now)
  | moved {book : Book} {row : JobRow} (member : row ∈ book.jobs) {current next : JobStatus}
      {actor : Actor} {reason : Option String} {note : JobRow → JobRow}
      (stands : row.status = current.name) (law : LawfulMove current next actor reason note)
      (now : Instant) : Quiet book (book.moved row.id current next actor reason now note)
  | coded {book : Book} (id : String) (code : Option String) :
      Quiet book (book.updateJob id (codedRow code))

/-- How the book changes when something is done about money. -/
inductive Change (book : Book) : Deed → Book → Prop
  | quiet {after : Book} (steps : Relation.ReflTransGen Quiet book after) :
      Change book .nothing after
  | invoiced {row : JobRow} (member : row ∈ book.jobs) {job : Job} (shows : Shows row job)
      (uninvoiced : job.invoiceId = none) (started : job.status ≠ .pending)
      (underWay : job.status.isTerminal = false) (amountSats : Int) {invoiceId : String}
      (unused : ∀ other ∈ book.jobs, other.id ≠ row.id → other.invoiceId ≠ some invoiceId)
      (now : Instant) :
      Change book (.invoiced row.id amountSats) (book.invoiced job amountSats invoiceId now)
  | settled {row : JobRow} (member : row ∈ book.jobs) {job : Job} (shows : Shows row job)
      (unpaid : job.status.isPaid = false) {next : JobStatus} {paymentStatus : String}
      (target : settlementTarget job = .ok (next, paymentStatus)) {now : Instant} {answer : Job}
      (answered : Shows (movedRow next now row) answer) :
      Change book (.settled answer) (book.settled job next paymentStatus now)
  | writtenOff {row : JobRow} (member : row ∈ book.jobs) {job : Job} (shows : Shows row job)
      (allowed : job.status.canMoveTo .completedReneged) (now : Instant) :
      Change book (.writtenOff row.id) (book.writtenOff job now)

/-- What every step leaves alone is the same after many. -/
theorem steps_eq {α : Type} {step : Book → Book → Prop} {book after : Book} (read : Book → α)
    (kept : ∀ {book after}, step book after → read after = read book)
    (steps : Relation.ReflTransGen step book after) : read after = read book := by
  induction steps with
  | refl => rfl
  | tail _ last ih => exact (kept last).trans ih

/-! ## Keys are kept -/

theorem map_updateJobs {α : Type} (jobs : List JobRow) (id : String) {update : JobRow → JobRow}
    (key : JobRow → α) (keeps : ∀ row, key (update row) = key row) :
    (updateJobs jobs id update).map key = jobs.map key :=
  map_changedUnder fun row _ => keeps row

/-- The jobs of a book are still there with what is read of them, and new ones come after them. -/
def Retains {α : Type} (read : JobRow → α) (book after : Book) : Prop :=
  book.jobs.map read <+: after.jobs.map read

section Retains

variable {α : Type} {read : JobRow → α} {book after : Book}

theorem Retains.refl (read : JobRow → α) (book : Book) : Retains read book book :=
  List.prefix_rfl

theorem Retains.trans {last : Book} (first : Retains read book after)
    (second : Retains read after last) : Retains read book last :=
  List.IsPrefix.trans first second

theorem Retains.of_updateJobs {id : String} {update : JobRow → JobRow}
    (jobs : after.jobs = updateJobs book.jobs id update)
    (keeps : ∀ row, read (update row) = read row) : Retains read book after := by
  have same : after.jobs.map read = book.jobs.map read := jobs ▸ map_updateJobs _ _ _ keeps
  exact ⟨[], (List.append_nil _).trans same.symm⟩

theorem Retains.mem (retains : Retains read book after) {row : JobRow} (member : row ∈ book.jobs) :
    ∃ other ∈ after.jobs, read other = read row :=
  List.mem_map.mp (retains.subset (List.mem_map_of_mem member))

end Retains

theorem Quiet.jobsKeyed {book after : Book} (step : Quiet book after) (keyed : book.JobsKeyed) :
    after.JobsKeyed := by
  cases step with
  | userAdded => exact keyed
  | jobAdded id request now fresh _ =>
    rw [JobsKeyed, Book.jobAdded, withMove, List.map_append]
    have unused : (newJobRow id request now).id ∉ book.jobs.map (·.id) := by
      simpa [newJobRow] using fresh
    simpa using List.Nodup.concat unused keyed
  | @moved row _ _ _ _ _ _ _ law now =>
    rw [JobsKeyed, Book.moved, map_updateJobs _ _ _ fun row => (law.sameTerms now row).id]
    exact keyed
  | coded id code =>
    rw [JobsKeyed, Book.updateJob, map_updateJobs _ _ _ fun row => (sameTerms_codedRow code row).id]
    exact keyed

/-! ## Every operation is one change -/

variable {book after : Book}

/-- A claim is a row of dispatches. -/
private theorem claim_eq_ok (keyed : book.JobsKeyed) {ids : List String} {now : Instant}
    {jobs : List Job} (h : book.claim now ids = .ok (jobs, after)) :
    Relation.ReflTransGen Quiet book after := by
  induction ids generalizing book jobs with
  | nil =>
    cases pure_eq_ok_iff.mp h
    exact .refl
  | cons id ids ih =>
    simp only [claim, bind_eq_ok_iff, pure_eq_ok_iff] at h
    obtain ⟨⟨_, middle⟩, one, ⟨_, _⟩, rest, h⟩ := h
    cases h
    rcases claimOne_eq_ok keyed one with rfl | ⟨row, member, rfl, stands, rfl⟩
    · exact ih keyed rest
    · have step : Quiet book _ := .moved member stands .dispatched now
      exact .head step (ih (step.jobsKeyed keyed) rest)

private theorem Change.refl (book : Book) : Change book .nothing book :=
  .quiet .refl

private theorem Change.single (step : Quiet book after) : Change book .nothing after :=
  .quiet (.single step)

theorem answer_eq_ok {ε α : Type} {refusal : ε → Refusal} {reply : α → Reply}
    {result : Except ε (α × Book)} {given : Reply}
    (h : Operation.answer refusal reply result = .ok (given, after)) :
    ∃ value, result = .ok (value, after) ∧ given = reply value := by
  unfold Operation.answer at h
  split at h
  · cases h
    exact ⟨_, rfl, rfl⟩
  · cases h

theorem perform_eq_ok {operation : Operation} {reply : Reply}
    (h : (book.perform operation).1 = .ok reply) :
    operation.apply book = .ok (reply, (book.perform operation).2) := by
  unfold perform atomically at h ⊢
  cases result : operation.apply book with
  | error refusal => simp [result] at h
  | ok outcome =>
    rw [result] at h
    cases h
    rfl

theorem perform_of_apply {operation : Operation} {reply : Reply}
    (h : operation.apply book = .ok (reply, after)) :
    book.perform operation = (.ok reply, after) := by
  rw [perform, atomically, h]

/-- What a successful operation writes is the change that its event tells. -/
theorem apply_change (keyed : book.JobsKeyed) {operation : Operation} {reply : Reply}
    (h : operation.apply book = .ok (reply, after)) :
    Change book (Event.deed ⟨operation, .ok reply⟩) after := by
  cases operation with
  | createUser id email status now =>
    simp only [Operation.apply] at h
    split at h
    · rename_i created
      cases h
      obtain ⟨fresh, rfl⟩ := createUser_eq_ok created
      exact .single (.userAdded _ fresh rfl)
    · cases h
  | createJob id request now =>
    obtain ⟨job, created, rfl⟩ := answer_eq_ok h
    obtain ⟨fresh, owner, rfl⟩ := createJob_eq_ok created
    exact .single (.jobAdded id request now fresh owner)
  | claim ids now =>
    obtain ⟨jobs, claimed, rfl⟩ := answer_eq_ok h
    exact .quiet (claim_eq_ok keyed claimed)
  | applyReport id report now =>
    obtain ⟨job, reported, rfl⟩ := answer_eq_ok h
    obtain ⟨row, member, rfl, current, stands, reportable, edge, rfl⟩ :=
      applyReport_eq_ok keyed reported
    exact .single (.moved member stands (.reported report reportable edge) now)
  | attachInvoice id amountSats invoiceId now =>
    obtain ⟨job, attached, rfl⟩ := answer_eq_ok h
    obtain ⟨row, member, found, rfl, shows, uninvoiced, started, underWay, unused, rfl⟩ :=
      attachInvoice_eq_ok attached
    exact .invoiced member shows uninvoiced started underWay amountSats unused now
  | submitOtp id code =>
    simp only [Operation.apply] at h
    split at h
    · rename_i submitted
      cases h
      obtain ⟨_, _, _, _, rfl⟩ := submitOtp_eq_ok keyed submitted
      exact .single (.coded id _)
    · cases h
  | takeOtp id =>
    obtain ⟨code, taken, rfl⟩ := answer_eq_ok h
    rcases takeOtp_eq_ok taken with rfl | rfl
    · exact .refl after
    · exact .single (.coded id none)
  | forceStatus id next reason now =>
    obtain ⟨job, forced, rfl⟩ := answer_eq_ok h
    obtain ⟨row, member, rfl, current, stands, allowed, given, rfl⟩ := forceStatus_eq_ok keyed forced
    exact .single (.moved member stands (.forced reason given allowed) now)
  | settle id now =>
    obtain ⟨job, settled, rfl⟩ := answer_eq_ok h
    obtain ⟨row, member, found, next, word, rfl, shows, unpaid, target, answered, rfl⟩ :=
      settle_eq_ok keyed settled
    exact .settled member shows unpaid target answered
  | settleByInvoice invoiceId now =>
    obtain ⟨job, settled, rfl⟩ := answer_eq_ok h
    obtain ⟨owner, _, _, settled⟩ := settleByInvoice_eq_ok settled
    obtain ⟨row, member, found, next, word, _, shows, unpaid, target, answered, rfl⟩ :=
      settle_eq_ok keyed settled
    exact .settled member shows unpaid target answered
  | recordRenege id now =>
    obtain ⟨job, reneged, rfl⟩ := answer_eq_ok h
    obtain ⟨row, member, found, rfl, shows, allowed, rfl⟩ := recordRenege_eq_ok keyed reneged
    exact .writtenOff member shows allowed now

private theorem deed_of_refusal (operation : Operation) (refusal : Refusal) :
    Event.deed ⟨operation, .error refusal⟩ = .nothing := by
  cases operation <;> rfl

/-- Every operation, refused or not, changes the book as its event tells. -/
theorem perform_change (keyed : book.JobsKeyed) (operation : Operation) :
    Change book (Event.deed ⟨operation, (book.perform operation).1⟩)
      (book.perform operation).2 := by
  unfold perform atomically
  cases result : operation.apply book with
  | error refusal =>
    simp only [deed_of_refusal]
    exact .refl book
  | ok outcome => exact apply_change keyed result

/-- An operation that settles a job writes what a settlement of that job writes. -/
theorem perform_settled (keyed : book.JobsKeyed) {operation : Operation} {answer : Job}
    (settles : Event.deed ⟨operation, (book.perform operation).1⟩ = .settled answer) :
    ∃ row ∈ book.jobs, ∃ job next paymentStatus now, Shows row job ∧
      settlementTarget job = .ok (next, paymentStatus) ∧ Shows (movedRow next now row) answer ∧
      (book.perform operation).2 = book.settled job next paymentStatus now := by
  have change := perform_change keyed operation
  rw [settles] at change
  generalize (book.perform operation).2 = after at change ⊢
  cases change with
  | settled member shows unpaid target answered =>
    exact ⟨_, member, _, _, _, _, shows, target, answered, rfl⟩

end JobRelay.Book
