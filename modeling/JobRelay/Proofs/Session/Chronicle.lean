import JobRelay.Proofs.Session.Coherence

/-! # What a session tells about payments

The book forgets who did what; the events of the session do not. `Told` ties the two together: the
stage of every job is the one that the invoices, settlements and write-offs among the events lead
to. The relation `PaymentStage.Step` says how one event moves the stage of one job.
-/

namespace JobRelay

namespace Deed

/-- The job whose payment goes on. -/
def target? : Deed → Option String
  | nothing => none
  | invoiced id _ => some id
  | settled job => some job.id
  | writtenOff id => some id

/-- Amounts of invoices are positive. -/
def Positive : Deed → Prop
  | invoiced _ amountSats => 0 < amountSats
  | _ => True

/-- What is booked for a job. -/
def bookedSats (id : String) : Deed → List Int
  | settled job => if job.id = id then (Book.positivePrice job).toList else []
  | _ => []

end Deed

/-- A payment is answered with the job that was asked for. -/
def Event.Answers : Event → Prop
  | ⟨.settle id _, .ok reply⟩ => ∃ job, reply = .job job ∧ job.id = id
  | ⟨.settleByInvoice invoiceId _, .ok reply⟩ =>
    ∃ job, reply = .job job ∧ job.invoiceId = some invoiceId
  | _ => True

theorem Operation.Positive.deed {operation : Operation} (positive : operation.Positive)
    (result : Except Refusal Reply) : (Event.deed ⟨operation, result⟩).Positive := by
  unfold Event.deed
  split
  · rename_i same
    cases same
    exact positive
  all_goals trivial

/-- How a deed moves the stage of a job. -/
inductive PaymentStage.Step (id : String) : Deed → PaymentStage → PaymentStage → Prop
  | elsewhere {deed : Deed} {stage : PaymentStage} (apart : deed.target? ≠ some id) :
      Step id deed stage stage
  | invoiced (amountSats : Int) : Step id (.invoiced id amountSats) .unrecorded .pending
  | settled {job : Job} (same : job.id = id) {stage : PaymentStage}
      (unsettled : stage.isSettled = false) : Step id (.settled job) stage stage.settle
  | writtenOff {stage : PaymentStage} (before : stage = .unrecorded ∨ stage = .pending) :
      Step id (.writtenOff id) stage .reneged

namespace PaymentStage

theorem isSettled_settle (stage : PaymentStage) : stage.settle.isSettled := by
  cases stage <;> rfl

private theorem isWrittenOff_settle {stage : PaymentStage} (unsettled : stage.isSettled = false) :
    stage.settle.isWrittenOff = stage.isWrittenOff := by
  revert unsettled
  cases stage <;> decide

namespace Step

variable {id : String} {deed : Deed} {stage next : PaymentStage}

/-- A stage counts as settled from the settlement on, which comes once. -/
private theorem isSettled (step : Step id deed stage next) :
    (if next.isSettled then 1 else 0) =
      (if stage.isSettled then 1 else 0) + (deed.settled?.toList.map (·.id)).count id := by
  cases step with
  | elsewhere apart => cases deed <;> simp_all [Deed.target?, Deed.settled?]
  | invoiced => rfl
  | settled same unsettled => simp [unsettled, isSettled_settle, Deed.settled?, same]
  | writtenOff before => rcases before with rfl | rfl <;> rfl

/-- A stage counts as written off from the write-off on. -/
private theorem isWrittenOff (step : Step id deed stage next) :
    next.isWrittenOff = (stage.isWrittenOff || deed.writesOff id) := by
  cases step with
  | elsewhere apart => cases deed <;> simp_all [Deed.target?, Deed.writesOff]
  | invoiced => rfl
  | settled same unsettled => simp [isWrittenOff_settle unsettled, Deed.writesOff]
  | writtenOff before => simp [PaymentStage.isWrittenOff, Deed.writesOff]

/-- Nothing follows a settlement. -/
private theorem eq_of_isSettled (step : Step id deed stage next) (settled : stage.isSettled) :
    next = stage := by
  cases step with
  | elsewhere => rfl
  | invoiced => cases settled
  | settled same unsettled => simp [unsettled] at settled
  | writtenOff before => rcases before with rfl | rfl <;> cases settled

end Step

end PaymentStage

namespace Book

variable {book after : Book} {deed : Deed}

/-! ## One change -/

theorem Quiet.transactions (step : Quiet book after) : after.transactions = book.transactions := by
  cases step <;> rfl

private theorem Quiet.ledger (step : Quiet book after) : after.ledger = book.ledger := by
  cases step <;> rfl

/-- What every quiet step of a coherent book keeps is kept by many. -/
theorem Coherent.quiet_induction {invariant : Book → Prop} (coherent : book.Coherent)
    (step : ∀ {book after : Book}, book.Coherent → Quiet book after → invariant book →
      invariant after)
    (steps : Relation.ReflTransGen Quiet book after) (start : invariant book) :
    after.Coherent ∧ invariant after := by
  induction steps with
  | refl => exact ⟨coherent, start⟩
  | tail _ last ih => exact ⟨ih.1.quiet last, step ih.1 last ih.2⟩

theorem Coherent.change (coherent : book.Coherent) (positive : deed.Positive)
    (change : Change book deed after) : after.Coherent := by
  cases change with
  | quiet steps => exact (coherent.quiet_induction (fun _ _ _ => trivial) steps trivial).1
  | invoiced member shows uninvoiced started underWay amountSats unused now =>
    exact (coherent.invoiced member shows uninvoiced underWay positive _ now).2.2
  | settled member shows unpaid target answered =>
    exact (coherent.settled member shows target _).2.2.1
  | writtenOff member shows allowed now => exact (coherent.writtenOff member shows allowed now).2.2

/-- Every change moves the stage of every job lawfully. -/
theorem Change.step (coherent : book.Coherent) (positive : deed.Positive)
    (change : Change book deed after) (id : String) :
    PaymentStage.Step id deed (book.stageOf id) (after.stageOf id) := by
  have elsewhere {row : JobRow} {update : JobRow → JobRow} {deed : Deed}
      (confined : Confined row.id update book after) (target : deed.target? = some row.id)
      (apart : id ≠ row.id) : PaymentStage.Step id deed (book.stageOf id) (after.stageOf id) := by
    rw [confined.stageOf_eq apart]
    exact .elsewhere (by simp [target, Ne.symm apart])
  cases change with
  | quiet steps =>
    have same : after.transactions = book.transactions := steps_eq _ Quiet.transactions steps
    have told : after.stageOf id = book.stageOf id := by
      rw [stageOf, stageOf, transactionRow?, transactionRow?, same]
    rw [told]
    exact .elsewhere (by simp [Deed.target?])
  | @invoiced row member job shows uninvoiced started underWay amountSats invoiceId unused now =>
    by_cases here : id = row.id
    · subst here
      obtain ⟨before, told, _⟩ :=
        coherent.invoiced member shows uninvoiced underWay positive invoiceId now
      rw [before, told]
      exact .invoiced amountSats
    · exact elsewhere (confined_invoiced shows ..) rfl here
  | @settled row member job shows unpaid next paymentStatus target now answer answered =>
    by_cases here : id = row.id
    · subst here
      obtain ⟨before, told, _⟩ := coherent.settled member shows target now
      rw [told]
      exact .settled answered.id before
    · exact elsewhere (confined_settled shows ..) (congrArg some answered.id) here
  | @writtenOff row member job shows allowed now =>
    by_cases here : id = row.id
    · subst here
      obtain ⟨before, told, _⟩ := coherent.writtenOff member shows allowed now
      rw [told]
      exact .writtenOff before
    · exact elsewhere (confined_writtenOff shows now) rfl here

/-- The ledger is only appended to. -/
theorem Change.ledger_grows (change : Change book deed after) : book.ledger <+: after.ledger := by
  cases change with
  | quiet steps =>
    have same : after.ledger = book.ledger := steps_eq _ Quiet.ledger steps
    exact same ▸ List.prefix_rfl
  | invoiced => exact List.prefix_rfl
  | settled => exact List.prefix_append ..
  | writtenOff => exact List.prefix_rfl

/-- Settlement books the positive price of its job, and nothing else books anything. -/
theorem Change.booked (change : Change book deed after) (id : String) :
    (after.entriesOf id).map (·.amountSats) =
      (book.entriesOf id).map (·.amountSats) ++ deed.bookedSats id := by
  cases change with
  | quiet steps =>
    simp [entriesOf, steps_eq Book.ledger Quiet.ledger steps, Deed.bookedSats]
  | invoiced => simp [entriesOf, Book.invoiced, Deed.bookedSats]
  | @settled row member job shows unpaid next paymentStatus target now answer answered =>
    have price : positivePrice answer = positivePrice job := by
      rw [positivePrice, positivePrice, answered.amountSats, shows.amountSats]
      rfl
    rw [entriesOf_settled book shows, List.map_append, Deed.bookedSats, answered.id, price]
    congr 1
    by_cases here : id = row.id
    · simp [here, movedRow, revenueRow, Function.comp_def]
    · simp [here, movedRow, Ne.symm here]
  | writtenOff => simp [entriesOf, Book.writtenOff, withMove, Deed.bookedSats]

/-- A payment that is not refused is answered with the job that was asked for. -/
theorem perform_answers (keyed : book.JobsKeyed) (operation : Operation) :
    Event.Answers ⟨operation, (book.perform operation).1⟩ := by
  unfold perform atomically
  cases result : operation.apply book with
  | error refusal => cases operation <;> trivial
  | ok outcome =>
    cases operation with
    | settle id now =>
      obtain ⟨job, settled, same⟩ := answer_eq_ok result
      obtain ⟨row, _, _, _, _, rfl, _, _, _, answered, _⟩ := settle_eq_ok keyed settled
      exact ⟨job, same, answered.id⟩
    | settleByInvoice invoiceId now =>
      obtain ⟨job, settled, same⟩ := answer_eq_ok result
      obtain ⟨owner, carrier, carries, settled⟩ := settleByInvoice_eq_ok settled
      obtain ⟨row, member, _, _, _, found, _, _, _, answered, _⟩ := settle_eq_ok keyed settled
      obtain rfl := keyed.eq_of_id member carrier found
      exact ⟨job, same, answered.invoiceId.trans carries⟩
    | _ => trivial

/-! ## Whole sessions -/

/-- The jobs that were settled, as they were answered. -/
def settledJobs (events : List Event) : List Job :=
  events.filterMap (·.deed.settled?)

private theorem settledJobs_concat (events : List Event) (event : Event) :
    settledJobs (events ++ [event]) = settledJobs events ++ event.deed.settled?.toList := by
  rw [settledJobs, List.filterMap_append]
  cases settles : event.deed.settled? <;> simp [settledJobs, settles]

def wroteOff (events : List Event) (id : String) : Bool :=
  events.any (·.deed.writesOff id)

/-- The book is what the events have made of it. -/
structure Told (events : List Event) (book : Book) : Prop where
  coherent : book.Coherent
  answers : ∀ event ∈ events, event.Answers
  settled : ∀ id, ((settledJobs events).map (·.id)).count id =
    if (book.stageOf id).isSettled then 1 else 0
  wroteOff : ∀ id, wroteOff events id = (book.stageOf id).isWrittenOff
  booked : ∀ id, (book.entriesOf id).map (·.amountSats) =
    events.flatMap (·.deed.bookedSats id)
  order : ∀ before event rest job, events = before ++ event :: rest →
    event.deed.settled? = some job →
      Book.wroteOff before job.id = (book.stageOf job.id).isWrittenOff

private theorem told_empty : Told [] .empty where
  coherent := coherent_empty
  answers _ member := by cases member
  settled _ := rfl
  wroteOff _ := rfl
  booked _ := rfl
  order before event rest job split := by simp at split

theorem mem_settledJobs {events : List Event} {job : Job} :
    job ∈ settledJobs events ↔ ∃ event ∈ events, event.deed.settled? = some job :=
  List.mem_filterMap

theorem Told.isSettled_iff {events : List Event} (told : Told events book) (id : String) :
    (book.stageOf id).isSettled ↔ ∃ job ∈ settledJobs events, job.id = id := by
  rw [← List.mem_map, ← List.count_pos_iff, told.settled id]
  cases (book.stageOf id).isSettled <;> decide

/-- Every further event is told by the book it leads to. -/
private theorem Told.concat {events : List Event} (told : Told events book) {event : Event}
    (positive : event.deed.Positive) (answers : event.Answers)
    (change : Change book event.deed after) : Told (events ++ [event]) after where
  coherent := told.coherent.change positive change
  answers other member := by
    rcases List.mem_append.mp member with old | new
    · exact told.answers other old
    · obtain rfl := List.mem_singleton.mp new
      exact answers
  settled id := by
    have step := (change.step told.coherent positive id).isSettled
    rw [step, ← told.settled id, settledJobs_concat, List.map_append, List.count_append]
  wroteOff id := by
    rw [(change.step told.coherent positive id).isWrittenOff, ← told.wroteOff id, Book.wroteOff,
      Book.wroteOff, List.any_append]
    simp
  booked id := by
    rw [change.booked id, told.booked id, List.flatMap_append]
    simp
  order before latest rest job split settles := by
    have step := change.step told.coherent positive job.id
    -- The settlement is either the new event or one of those before it.
    rcases List.eq_nil_or_concat rest with rfl | ⟨rest, last, rfl⟩
    · obtain ⟨rfl, same⟩ := List.append_inj' split rfl
      obtain rfl : event = latest := List.cons.inj same |>.1
      have quiet : event.deed.writesOff job.id = false := by
        cases told : event.deed <;> simp_all [Deed.settled?, Deed.writesOff]
      rw [step.isWrittenOff, quiet, Bool.or_false, told.wroteOff]
    · rw [List.concat_eq_append, ← List.cons_append, ← List.append_assoc] at split
      obtain ⟨rfl, same⟩ := List.append_inj' split rfl
      have once : (book.stageOf job.id).isSettled := by
        rw [told.isSettled_iff]
        exact ⟨job, mem_settledJobs.mpr ⟨latest, by simp, settles⟩, rfl⟩
      rw [told.order before latest rest job rfl settles, step.eq_of_isSettled once]

/-- Every session is told by its events. -/
theorem told_session (operations : List Operation)
    (positive : ∀ operation ∈ operations, operation.Positive) :
    Told (Book.empty.session operations).1 (Book.empty.session operations).2 := by
  apply session_induction Operation.Positive told_empty _ operations positive
  intro events book operation allowed told
  have keyed := told.coherent.jobsKeyed
  exact told.concat (allowed.deed _) (perform_answers keyed operation)
    (perform_change keyed operation)

end Book

end JobRelay
