import JobRelay.Proofs.Money.Payable

/-! # Jobs that are closed

A job that was paid is closed: it is over, and no payment is awaited for it. Agents and settlement
have no move out of that; the operator may still force the job to another end. A closed job stands
paid until then and never again, and from where it stands no payment is taken.
-/

namespace JobRelay

namespace JobStatus

/-- The job is over, and no payment is awaited for it. -/
def isClosed (status : JobStatus) : Bool :=
  status.isTerminal && status != .completedReneged

variable {current next : JobStatus}

private theorem isClosed_of_isPaid (paid : current.isPaid) : current.isClosed := by
  revert paid
  cases current <;> decide

private theorem not_canMoveTo_of_isClosed (closed : current.isClosed) :
    current.canMoveTo next = false := by
  revert closed
  cases current <;> cases next <;> decide

private theorem isClosed_of_canMoveTo (edge : current.canMoveTo next) :
    current.isClosed = false := by
  rw [Bool.eq_false_iff]
  intro closed
  rw [not_canMoveTo_of_isClosed closed] at edge
  cases edge

private theorem isClosed_of_canForceTo (closed : current.isClosed)
    (allowed : current.canForceTo next) : next.isClosed ∧ next.isPaid = false := by
  revert closed allowed
  cases current <;> cases next <;> decide

end JobStatus

/-- The operator forced the status of a job. -/
def Event.overrides (id : String) : Event → Bool
  | ⟨.forceStatus other _ _ _, .ok _⟩ => other == id
  | _ => false

namespace Book

variable {book after : Book} {row : JobRow} {job : Job} {id : String} {status : JobStatus}
  {paid : Bool}

/-- A job is closed, and stands paid or does not. -/
def ClosedAt (id : String) (paid : Bool) (book : Book) : Prop :=
  ∃ row ∈ book.jobs, row.id = id ∧ ∃ status : JobStatus, row.status = status.name ∧
    status.isClosed ∧ status.isPaid = paid

/-! ## What moves a closed job -/

/-- A closed job is where it was after a change of other jobs, or of other columns. -/
private theorem ClosedAt.of_updateJobs (closedAt : ClosedAt id paid book) {other : String}
    {update : JobRow → JobRow} (jobs : after.jobs = updateJobs book.jobs other update)
    (keeps : ∀ row ∈ book.jobs, row.id = id → id = other →
      (∃ status : JobStatus, row.status = status.name ∧ status.isClosed) →
        (update row).id = row.id ∧ (update row).status = row.status) :
    ClosedAt id paid after := by
  obtain ⟨row, member, same, status, stands, closed, told⟩ := closedAt
  refine ⟨if row.id = other then update row else row, ?_, ?_⟩
  · rw [jobs]
    exact List.mem_map_of_mem member
  · split
    · rename_i here
      obtain ⟨idKept, kept⟩ := keeps row member same (same.symm.trans here) ⟨status, stands, closed⟩
      exact ⟨idKept.trans same, status, kept.trans stands, closed, told⟩
    · exact ⟨same, status, stands, closed, told⟩

/-- A job that stands elsewhere is no closed one, so changing it leaves the closed ones. -/
private theorem ClosedAt.of_open (closedAt : ClosedAt id paid book) (keyed : book.JobsKeyed)
    (member : row ∈ book.jobs) (stands : row.status = status.name)
    (opened : status.isClosed = false) {update : JobRow → JobRow}
    (jobs : after.jobs = updateJobs book.jobs row.id update) : ClosedAt id paid after := by
  apply closedAt.of_updateJobs jobs
  rintro other present rfl same ⟨known, stood, closed⟩
  obtain rfl := keyed.eq_of_id present member same
  rw [JobStatus.name_inj (stands.symm.trans stood), closed] at opened
  cases opened

private theorem ClosedAt.claim (closedAt : ClosedAt id paid book) (keyed : book.JobsKeyed)
    {ids : List String} {now : Instant} {jobs : List Job}
    (h : book.claim now ids = .ok (jobs, after)) : ClosedAt id paid after := by
  induction ids generalizing book jobs with
  | nil =>
    cases pure_eq_ok_iff.mp h
    exact closedAt
  | cons first ids ih =>
    simp only [Book.claim, bind_eq_ok_iff, pure_eq_ok_iff] at h
    obtain ⟨⟨_, middle⟩, one, ⟨_, _⟩, rest, h⟩ := h
    cases h
    rcases claimOne_eq_ok keyed one with rfl | ⟨row, member, rfl, stands, rfl⟩
    · exact ih closedAt keyed rest
    · have step : Quiet book _ := .moved member stands .dispatched now
      exact ih (closedAt.of_open keyed member stands rfl rfl) (step.jobsKeyed keyed) rest

/-- No settlement finds a target in a closed job. -/
private theorem isClosed_of_settlementTarget {next : JobStatus} {paymentStatus : String}
    (target : settlementTarget job = .ok (next, paymentStatus)) : job.status.isClosed = false := by
  rcases settlementTarget_eq_ok target with ⟨same, _⟩ | ⟨_, same | same, _⟩ <;> rw [same] <;> rfl

private theorem ClosedAt.settle (closedAt : ClosedAt id paid book) (keyed : book.JobsKeyed)
    {other : String} {now : Instant} (h : book.settle other now = .ok (job, after)) :
    ClosedAt id paid after := by
  obtain ⟨row, member, found, next, word, rfl, shows, _, target, _, rfl⟩ := settle_eq_ok keyed h
  exact closedAt.of_open keyed member shows.status (isClosed_of_settlementTarget target)
    (confined_settled shows next word now).jobs

/-- A closed job stays where it is, whatever is done but an override of it. -/
theorem ClosedAt.apply (closedAt : ClosedAt id paid book) (keyed : book.JobsKeyed)
    {operation : Operation} {reply : Reply} (h : operation.apply book = .ok (reply, after))
    (free : Event.overrides id ⟨operation, .ok reply⟩ = false) : ClosedAt id paid after := by
  cases operation with
  | createUser _ email status now =>
    simp only [Operation.apply] at h
    split at h
    · rename_i created
      cases h
      obtain ⟨_, rfl⟩ := createUser_eq_ok created
      exact closedAt
    · cases h
  | createJob _ request now =>
    obtain ⟨_, created, _⟩ := answer_eq_ok h
    obtain ⟨_, _, rfl⟩ := createJob_eq_ok created
    obtain ⟨row, member, told⟩ := closedAt
    exact ⟨row, List.mem_append_left _ member, told⟩
  | claim ids now =>
    obtain ⟨_, claimed, _⟩ := answer_eq_ok h
    exact closedAt.claim keyed claimed
  | applyReport _ report now =>
    obtain ⟨_, reported, _⟩ := answer_eq_ok h
    obtain ⟨row, member, rfl, current, stands, _, edge, rfl⟩ := applyReport_eq_ok keyed reported
    exact closedAt.of_open keyed member stands (JobStatus.isClosed_of_canMoveTo edge) rfl
  | attachInvoice _ amountSats invoiceId now =>
    obtain ⟨_, attached, _⟩ := answer_eq_ok h
    obtain ⟨row, member, found, rfl, shows, _, _, underWay, _, rfl⟩ := attachInvoice_eq_ok attached
    refine closedAt.of_open keyed member shows.status ?_
      (confined_invoiced shows amountSats invoiceId now).jobs
    rw [JobStatus.isClosed, underWay, Bool.false_and]
  | submitOtp _ code =>
    simp only [Operation.apply] at h
    split at h
    · rename_i submitted
      cases h
      obtain ⟨_, _, _, _, rfl⟩ := submitOtp_eq_ok keyed submitted
      exact closedAt.of_updateJobs rfl fun _ _ _ _ _ => ⟨rfl, rfl⟩
    · cases h
  | takeOtp _ =>
    obtain ⟨_, taken, _⟩ := answer_eq_ok h
    rcases takeOtp_eq_ok taken with rfl | rfl
    · exact closedAt
    · exact closedAt.of_updateJobs rfl fun _ _ _ _ _ => ⟨rfl, rfl⟩
  | forceStatus other next reason now =>
    obtain ⟨_, forced, _⟩ := answer_eq_ok h
    obtain ⟨_, _, _, current, _, _, _, rfl⟩ := forceStatus_eq_ok keyed forced
    refine closedAt.of_updateJobs rfl fun _ _ _ same _ => ?_
    simp [Event.overrides, same] at free
  | settle _ now =>
    obtain ⟨_, settled, _⟩ := answer_eq_ok h
    exact closedAt.settle keyed settled
  | settleByInvoice _ now =>
    obtain ⟨_, settled, _⟩ := answer_eq_ok h
    obtain ⟨_, _, _, settled⟩ := settleByInvoice_eq_ok settled
    exact closedAt.settle keyed settled
  | recordRenege _ now =>
    obtain ⟨_, reneged, _⟩ := answer_eq_ok h
    obtain ⟨row, member, found, rfl, shows, edge, rfl⟩ := recordRenege_eq_ok keyed reneged
    exact closedAt.of_open keyed member shows.status (JobStatus.isClosed_of_canMoveTo edge)
      (confined_writtenOff shows now).jobs

/-- An override leaves a closed job closed, and no longer paid. -/
theorem ClosedAt.override (closedAt : ClosedAt id paid book) (keyed : book.JobsKeyed)
    {next : JobStatus} {reason : String} {now : Instant}
    (h : book.forceStatus id next reason now = .ok (job, after)) : ClosedAt id false after := by
  obtain ⟨row, member, rfl, current, stands, allowed, _, rfl⟩ := forceStatus_eq_ok keyed h
  obtain ⟨other, present, same, status, stood, closed, _⟩ := closedAt
  obtain rfl := keyed.eq_of_id present member same
  obtain rfl := JobStatus.name_inj (stands.symm.trans stood)
  obtain ⟨stays, unpaid⟩ := JobStatus.isClosed_of_canForceTo closed allowed
  refine ⟨movedRow next now other, ?_, rfl, next, rfl, stays, unpaid⟩
  exact List.mem_map.mpr ⟨other, member, if_pos rfl⟩

/-- A closed job stays closed, and stands paid until it is overridden. -/
theorem ClosedAt.perform (closedAt : ClosedAt id paid book) (keyed : book.JobsKeyed)
    (operation : Operation) :
    ClosedAt id (paid && !Event.overrides id ⟨operation, (book.perform operation).1⟩)
      (book.perform operation).2 := by
  unfold Book.perform atomically
  cases result : operation.apply book with
  | error refusal =>
    have free : Event.overrides id ⟨operation, .error refusal⟩ = false := by cases operation <;> rfl
    simpa [free] using closedAt
  | ok outcome =>
    cases overridden : Event.overrides id ⟨operation, .ok outcome.1⟩ with
    | false => simpa [overridden] using closedAt.apply keyed result overridden
    | true =>
      cases operation with
      | forceStatus other next reason now =>
        obtain ⟨_, forced, _⟩ := answer_eq_ok result
        obtain rfl : other = id := by simpa [Event.overrides] using overridden
        simpa [overridden] using closedAt.override keyed forced
      | _ => cases overridden

theorem ClosedAt.session (closedAt : ClosedAt id paid book) (intact : book.Intact)
    (operations : List Operation) :
    ClosedAt id (paid && !(book.session operations).1.any (Event.overrides id))
      (book.session operations).2 := by
  induction operations generalizing book paid with
  | nil => simpa [Book.session] using closedAt
  | cons operation rest ih =>
    have next := ih (closedAt.perform intact.jobsKeyed operation) (intact.perform operation)
    rw [Bool.and_assoc, ← Bool.not_or] at next
    exact next

/-! ## Payments of closed jobs -/

/-- A job that was settled stands paid. -/
theorem closedAt_of_settled (keyed : book.JobsKeyed) {operation : Operation}
    (settles : Event.deed ⟨operation, (book.perform operation).1⟩ = .settled job) :
    ClosedAt job.id true (book.perform operation).2 := by
  obtain ⟨row, member, found, next, word, now, shows, target, answered, same⟩ :=
    perform_settled keyed settles
  have paid : next.isPaid := by
    rcases settlementTarget_eq_ok target with ⟨_, rfl, _⟩ | ⟨_, _, rfl, _⟩ <;> rfl
  rw [same]
  refine ⟨movedRow next now row, ?_, answered.id.symm, next, rfl,
    JobStatus.isClosed_of_isPaid paid, paid⟩
  rw [(confined_settled shows next word now).jobs]
  exact List.mem_map.mpr ⟨row, member, if_pos rfl⟩

theorem settle_of_paid (intact : book.Intact) (member : row ∈ book.jobs)
    (read : readJob row = .ok job) (paid : job.status.isPaid) (now : Instant) :
    book.settle row.id now = .error (.alreadyPaid row.id) := by
  have fetched := fetchJob_of_mem intact member read
  unfold Book.settle
  refine (bind_of_eq_ok (liftPayment_eq_ok_iff.mpr (need_of_tables intact.tables .jobs))).trans ?_
  refine (bind_of_eq_ok (liftPayment_eq_ok_iff.mpr fetched)).trans ?_
  simp only [paid]
  rfl

/-- A payment under the invoice of a closed job is refused, as a repeated one while the job stands
paid, and after an override by where the job stands. -/
theorem settleByInvoice_of_closed (intact : book.Intact) (member : row ∈ book.jobs)
    {invoiceId : String} (carries : row.invoiceId = some invoiceId)
    (stands : row.status = status.name) (closed : status.isClosed) (now : Instant) :
    book.settleByInvoice invoiceId now =
      .error (if status.isPaid then .alreadyPaid row.id
        else .notPayable row.id ("cannot settle from " ++ status.name)) := by
  obtain ⟨job, read⟩ := intact.readable row member
  have shows := shows_of_readJob read
  obtain rfl := JobStatus.name_inj (shows.status.symm.trans stands)
  rw [settleByInvoice_eq intact member carries]
  split
  · rename_i paid
    exact settle_of_paid intact member read paid now
  · rename_i unpaid
    refine settle_of_refused intact member read (by simpa using unpaid) ?_ now
    have notReneged : job.status ≠ .completedReneged := by
      intro reneged
      rw [reneged] at closed
      cases closed
    rw [settlementTarget, if_neg notReneged, shows.invoiceId, carries,
      JobStatus.not_canMoveTo_of_isClosed closed, shows.id]
    rfl

end Book

end JobRelay
