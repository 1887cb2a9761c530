import JobRelay.Proofs.Session.Chronicle

/-! # A job is settled once

The guard of settlement looks at the present status only, and operators may move a paid or reneged
job on. Still no session settles a job twice: the stage of its payment never goes back, and it
keeps the job out of every status that could be settled again.
-/

namespace JobRelay.Book

/-- Payments are settled exactly once: what is answered, what is booked for it, and that nothing
booked is lost. -/
structure SettledOnce (events : List Event) (book : Book) : Prop where
  answers : ∀ event ∈ events, event.Answers
  once : ((settledJobs events).map (·.id)).Nodup
  bookedOnce : ∀ id, (book.entriesOf id).length ≤ 1
  booked_iff : ∀ id, book.entriesOf id ≠ [] ↔
    ∃ job ∈ settledJobs events, job.id = id ∧ ∃ amountSats > 0, job.amountSats = some amountSats
  terms : ∀ entry ∈ book.ledger, ∃ row ∈ book.jobs, row.id = entry.jobId ∧
    entry.serviceId = row.serviceId ∧ entry.action = row.action ∧
    row.amountSats = some entry.amountSats
  word : ∀ entry ∈ book.ledger, ∀ before event rest job, events = before ++ event :: rest →
    event.deed.settled? = some job → job.id = entry.jobId →
      entry.paymentStatus = if wroteOff before job.id then "eventual" else "paid"
  appended : ∀ operation, book.ledger <+: (book.perform operation).2.ledger

variable {book : Book} {events : List Event}

private theorem mem_entriesOf {entry : LedgerRow} (member : entry ∈ book.ledger) :
    entry ∈ book.entriesOf entry.jobId :=
  List.mem_filter.mpr ⟨member, beq_self_eq_true _⟩

/-- A posting repeats the terms of its job and the stage of its payment. -/
private theorem mem_postings {row : JobRow} {stage : PaymentStage} {posting : Posting}
    (member : posting ∈ row.postings stage) :
    stage.isSettled ∧ posting.serviceId = row.serviceId ∧ posting.action = row.action ∧
      row.amountSats = some posting.amountSats ∧
      posting.paymentStatus = if stage.isWrittenOff then "eventual" else "paid" := by
  by_cases settled : stage.isSettled
  · rw [JobRow.postings, if_pos settled] at member
    obtain ⟨amountSats, price, rfl⟩ := List.mem_map.mp member
    refine ⟨settled, rfl, rfl, by simpa using price, ?_⟩
    cases stage with
    | unrecorded | pending | reneged => cases settled
    | paid | eventual => rfl
  · rw [JobRow.postings, if_neg settled] at member
    cases member

/-- An entry is the posting of its job, whose payment is settled. -/
private theorem Coherent.posting (coherent : book.Coherent) {entry : LedgerRow}
    (member : entry ∈ book.ledger) :
    ∃ row ∈ book.jobs, row.id = entry.jobId ∧
      entry.posting ∈ row.postings (book.stageOf entry.jobId) := by
  have present := mem_entriesOf member
  by_cases known : ∃ row ∈ book.jobs, row.id = entry.jobId
  · obtain ⟨row, listed, same⟩ := known
    refine ⟨row, listed, same, ?_⟩
    rw [← same, ← (coherent.accounts row listed).entries, same]
    exact List.mem_map_of_mem present
  · have unbooked := (coherent.strangers entry.jobId (by simpa using known)).2
    simp [unbooked] at present

private theorem Coherent.entriesOf_length_le (coherent : book.Coherent) (id : String) :
    (book.entriesOf id).length ≤ 1 := by
  by_cases known : ∃ row ∈ book.jobs, row.id = id
  · obtain ⟨row, listed, rfl⟩ := known
    have posted := congrArg List.length (coherent.accounts row listed).entries
    rw [List.length_map] at posted
    rw [posted, JobRow.postings]
    cases row.amountSats <;> split <;> simp
  · rw [(coherent.strangers id (by simpa using known)).2]
    simp

private theorem mem_bookedSats {id : String} {deed : Deed} {amountSats : Int} :
    amountSats ∈ deed.bookedSats id ↔
      ∃ job, deed.settled? = some job ∧ job.id = id ∧ amountSats > 0 ∧
        job.amountSats = some amountSats := by
  cases deed with
  | settled job =>
    by_cases same : job.id = id
    · simp [Deed.bookedSats, Deed.settled?, same, positivePrice, Option.filter_eq_some_iff,
        and_comm]
    · simp [Deed.bookedSats, Deed.settled?, same]
  | _ => simp [Deed.bookedSats, Deed.settled?]

/-- The ledger holds the positive amounts of the settled jobs. -/
theorem Told.booked_iff (told : Told events book) (id : String) :
    book.entriesOf id ≠ [] ↔
      ∃ job ∈ settledJobs events, job.id = id ∧
        ∃ amountSats > 0, job.amountSats = some amountSats := by
  have amounts := told.booked id
  constructor
  · intro booked
    obtain ⟨entry, member⟩ := List.exists_mem_of_ne_nil _ booked
    have paid : entry.amountSats ∈ events.flatMap (·.deed.bookedSats id) :=
      amounts ▸ List.mem_map_of_mem member
    obtain ⟨event, present, here⟩ := List.mem_flatMap.mp paid
    obtain ⟨job, settles, same, positive, price⟩ := mem_bookedSats.mp here
    exact ⟨job, mem_settledJobs.mpr ⟨event, present, settles⟩, same, _, positive, price⟩
  · rintro ⟨job, settled, same, amountSats, positive, price⟩ empty
    obtain ⟨event, present, settles⟩ := mem_settledJobs.mp settled
    have paid : amountSats ∈ events.flatMap (·.deed.bookedSats id) :=
      List.mem_flatMap.mpr
        ⟨event, present, mem_bookedSats.mpr ⟨job, settles, same, positive, price⟩⟩
    rw [← amounts, empty] at paid
    cases paid

/-- Every session settles every job at most once and books it accordingly. -/
theorem settledOnce_session (operations : List Operation)
    (positive : ∀ operation ∈ operations, operation.Positive) :
    SettledOnce (Book.empty.session operations).1 (Book.empty.session operations).2 := by
  have told := told_session operations positive
  generalize (Book.empty.session operations).1 = events at told ⊢
  generalize (Book.empty.session operations).2 = book at told ⊢
  refine ⟨told.answers, ?_, told.coherent.entriesOf_length_le, told.booked_iff, ?_, ?_, ?_⟩
  · rw [List.nodup_iff_count_le_one]
    intro id
    rw [told.settled id]
    split <;> omega
  · intro entry member
    obtain ⟨row, listed, same, posted⟩ := told.coherent.posting member
    obtain ⟨_, serviceId, action, amountSats, _⟩ := mem_postings posted
    exact ⟨row, listed, same, serviceId, action, amountSats⟩
  · intro entry member before event rest job split settles same
    obtain ⟨_, _, _, posted⟩ := told.coherent.posting member
    obtain ⟨_, _, _, _, word⟩ := mem_postings posted
    rw [told.order before event rest job split settles, same]
    exact word
  · intro operation
    exact (perform_change told.coherent.jobsKeyed operation).ledger_grows

theorem settledOnce_writeOffs :
    (settledJobs (Book.empty.session (writeOffs none)).1).map (·.id) = ["k"] ∧
      SettledOnce (Book.empty.session (writeOffs none)).1
        (Book.empty.session (writeOffs none)).2 :=
  ⟨by decide +kernel, settledOnce_session (writeOffs none) (by decide)⟩

end JobRelay.Book
