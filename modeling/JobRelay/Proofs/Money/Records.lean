import JobRelay.Proofs.Money.Invoices
import JobRelay.Proofs.Session.Chronicle
import JobRelay.Proofs.Session.History

/-! # Payment records and outcomes

An invoice, a write-off and a payment write the same record of a job, each of them other columns of
it. The history is written beside and tells in which order they came. After every session the record
repeats the terms of its job and says what the history says: which outcome the job entered last, and
when it was paid.
-/

namespace JobRelay

namespace HistoryRow

/-- The job entered a status. -/
def enters (status : JobStatus) (entry : HistoryRow) : Bool :=
  entry.toStatus == status.name

/-- The job was paid. -/
def isPayment (entry : HistoryRow) : Bool :=
  entry.enters .completedPaid || entry.enters .completedEventual

/-- The job was paid or written off. -/
def isOutcome (entry : HistoryRow) : Bool :=
  entry.isPayment || entry.enters .completedReneged

variable {entry : HistoryRow} {next : JobStatus}

private theorem enters_eq (moved : entry.toStatus = next.name) (status : JobStatus) :
    entry.enters status = decide (next = status) := by
  rw [enters, moved, Bool.eq_iff_iff, beq_iff_eq, decide_eq_true_iff]
  exact ⟨JobStatus.name_inj, congrArg _⟩

private theorem isPayment_eq (moved : entry.toStatus = next.name) :
    entry.isPayment = next.isPaid := by
  rw [isPayment, enters_eq moved, enters_eq moved]
  cases next <;> rfl

private theorem isPayment_of_free (free : entry.isOutcome = false) : entry.isPayment = false :=
  (Bool.or_eq_false_iff.mp free).1

private theorem isOutcome_eq (moved : entry.toStatus = next.name) :
    entry.isOutcome = next.isSettlementOwned := by
  rw [isOutcome, isPayment_eq moved, enters_eq moved]
  cases next <;> rfl

private theorem exists_of_isPayment (payment : entry.isPayment) :
    ∃ status : JobStatus, entry.toStatus = status.name ∧ status.isPaid := by
  rcases Bool.or_eq_true_iff.mp payment with entered | entered
  · exact ⟨.completedPaid, eq_of_beq entered, rfl⟩
  · exact ⟨.completedEventual, eq_of_beq entered, rfl⟩

private theorem exists_of_isOutcome (ends : entry.isOutcome) :
    ∃ status : JobStatus, entry.toStatus = status.name ∧ status.isSettlementOwned := by
  rcases Bool.or_eq_true_iff.mp ends with payment | entered
  · obtain ⟨status, moved, paid⟩ := exists_of_isPayment payment
    exact ⟨status, moved, by revert paid; cases status <;> decide⟩
  · exact ⟨.completedReneged, eq_of_beq entered, rfl⟩

end HistoryRow

/-! ## Outcomes -/

/-- What the moves of a job make of its payment record. -/
def outcome (entries : List HistoryRow) : String :=
  if entries.any (HistoryRow.enters .completedEventual) then "eventual"
  else if entries.any (HistoryRow.enters .completedPaid) then "paid"
  else if entries.any (HistoryRow.enters .completedReneged) then "reneged"
  else "pending"

section Outcome

variable {entries : List HistoryRow} {entry : HistoryRow} {row : JobRow}

private theorem any_enters_of_open (unsettled : ∀ entry ∈ entries, entry.isOutcome = false)
    (status : JobStatus) (owned : status.isSettlementOwned) :
    entries.any (HistoryRow.enters status) = false := by
  rw [List.any_eq_false]
  intro entry member entered
  have ends := HistoryRow.isOutcome_eq (eq_of_beq entered)
  rw [unsettled entry member, owned] at ends
  cases ends

/-- What is no payment and no write-off leaves the outcome as it was. -/
private theorem outcome_concat (free : entry.isOutcome = false) :
    outcome (entries ++ [entry]) = outcome entries := by
  simp only [HistoryRow.isOutcome, HistoryRow.isPayment, Bool.or_eq_false_iff] at free
  obtain ⟨⟨paid, eventual⟩, reneged⟩ := free
  simp [outcome, paid, eventual, reneged]

private theorem outcome_of_open (unsettled : ∀ entry ∈ entries, entry.isOutcome = false) :
    outcome entries = "pending" := by
  have closed := any_enters_of_open unsettled
  rw [outcome, closed _ rfl, closed _ rfl, closed _ rfl]
  rfl

/-- The first outcome of a job is what its last move says. -/
private theorem outcome_concat_of_open (unsettled : ∀ entry ∈ entries, entry.isOutcome = false) :
    outcome (entries ++ [entry]) = outcome [entry] := by
  have closed := any_enters_of_open unsettled
  simp only [outcome, List.any_append, closed .completedEventual rfl, closed .completedPaid rfl,
    closed .completedReneged rfl, Bool.false_or]

/-- A late payment is the last word about a job. -/
private theorem outcome_concat_eventual
    (moved : entry.toStatus = JobStatus.completedEventual.name) :
    outcome (entries ++ [entry]) = "eventual" := by
  simp [outcome, HistoryRow.enters_eq moved]

/-- A job that is under way was neither paid nor written off. -/
private theorem Logged.not_isOutcome (logged : Logged entries row) {current : JobStatus}
    (stands : row.status = current.name) (underWay : current.isTerminal = false) :
    ∀ entry ∈ entries, entry.isOutcome = false := by
  intro entry member
  rw [Bool.eq_false_iff]
  intro ends
  obtain ⟨status, entered, owned⟩ := HistoryRow.exists_of_isOutcome ends
  have ended : status.isTerminal := by revert owned; cases status <;> decide
  have stayed := (logged.leads_of_mem member entered stands).isTerminal ended
  rw [underWay] at stayed
  cases stayed

/-- A job that stands written off was not paid. -/
private theorem Logged.not_isPayment (logged : Logged entries row)
    (stands : row.status = JobStatus.completedReneged.name) :
    ∀ entry ∈ entries, entry.isPayment = false := by
  intro entry member
  rw [Bool.eq_false_iff]
  intro payment
  obtain ⟨status, entered, paid⟩ := HistoryRow.exists_of_isPayment payment
  have leads := logged.leads_of_mem member entered stands
  exact leads.ne_completedReneged (by revert paid; cases status <;> decide)
    (by rintro rfl; cases paid) rfl

/-- A job that stands written off entered that status. -/
private theorem Logged.any_isOutcome (logged : Logged entries row)
    (stands : row.status = JobStatus.completedReneged.name) :
    entries.any HistoryRow.isOutcome := by
  obtain ⟨last, ends, status, _⟩ := logged.last
  refine List.any_eq_true.mpr ⟨last, List.mem_of_getLast? ends, ?_⟩
  rw [HistoryRow.isOutcome_eq (status.trans stands)]
  rfl

end Outcome

/-! ## The record of a job -/

/-- The payment record of a job repeats the terms of the job and tells what its moves tell. -/
structure Recounts (row : JobRow) (entries : List HistoryRow) (record : Option TransactionRow) :
    Prop where
  isSome_iff : record.isSome ↔ row.invoiceId.isSome ∨ entries.any HistoryRow.isOutcome
  mirrors : ∀ found ∈ record, found.Mirrors row
  status : ∀ found ∈ record, found.status = outcome entries
  isPaid_iff : ∀ found ∈ record,
    found.paidAt.isSome ↔ found.status = "paid" ∨ found.status = "eventual"
  paidAt : ∀ found ∈ record, ∀ entry ∈ entries, entry.isPayment → found.paidAt = some entry.createdAt

namespace Recounts

open Book

variable {row other : JobRow} {entries : List HistoryRow} {record : Option TransactionRow}
  {entry : HistoryRow} {job : Job}

private theorem newJob (id : String) (request : NewJob) (now : Instant) {entry : HistoryRow}
    (moved : entry.toStatus = JobStatus.pending.name) :
    Recounts (newJobRow id request now) [entry] none where
  isSome_iff := by simp [newJobRow, HistoryRow.isOutcome_eq moved, JobStatus.isSettlementOwned]
  mirrors := nofun
  status := nofun
  isPaid_iff := nofun
  paidAt := nofun

/-- The record is kept with the terms of the job. -/
private theorem of_sameTerms (recounts : Recounts row entries record)
    (terms : SameTerms row other) : Recounts other entries record where
  isSome_iff := by rw [terms.invoiceId]; exact recounts.isSome_iff
  mirrors found present := by
    obtain ⟨userId, amountSats, invoiceId⟩ := recounts.mirrors found present
    exact ⟨userId.trans terms.userId.symm, amountSats.trans terms.amountSats.symm,
      invoiceId.trans terms.invoiceId.symm⟩
  status := recounts.status
  isPaid_iff := recounts.isPaid_iff
  paidAt := recounts.paidAt

/-- A move that is no payment and no write-off is none of the record's business. -/
private theorem concat (recounts : Recounts row entries record) (free : entry.isOutcome = false) :
    Recounts row (entries ++ [entry]) record where
  isSome_iff := by simpa [free] using recounts.isSome_iff
  mirrors := recounts.mirrors
  status found present := by rw [outcome_concat free, recounts.status found present]
  isPaid_iff := recounts.isPaid_iff
  paidAt found present other member payment := by
    rcases List.mem_append.mp member with old | new
    · exact recounts.paidAt found present other old payment
    · obtain rfl := List.mem_singleton.mp new
      rw [HistoryRow.isPayment_of_free free] at payment
      cases payment

/-- An invoice finds no record and opens one. -/
private theorem invoiced (recounts : Recounts row entries record) (shows : Shows row job)
    (uninvoiced : job.invoiceId = none) (unsettled : ∀ entry ∈ entries, entry.isOutcome = false)
    (amountSats : Int) (invoiceId : String) (now : Instant) :
    Recounts (pricedRow amountSats invoiceId row) entries
      (some (record.elim (openTransaction job amountSats invoiceId now) fun found =>
        { found with amountSats := some amountSats, invoiceId := some invoiceId })) := by
  obtain rfl : record = none := by
    have absent := recounts.isSome_iff
    rw [← shows.invoiceId, uninvoiced, List.any_eq_false.mpr (by simpa using unsettled)] at absent
    simpa using absent
  exact {
    isSome_iff := by simp [pricedRow]
    mirrors := by
      rintro _ ⟨⟩
      exact ⟨shows.userId, rfl, rfl⟩
    status := by
      rintro _ ⟨⟩
      exact (outcome_of_open unsettled).symm
    isPaid_iff := by
      rintro _ ⟨⟩
      simp [openTransaction]
    paidAt := by
      rintro _ ⟨⟩ entry member payment
      rw [HistoryRow.isPayment_of_free (unsettled entry member)] at payment
      cases payment }

/-- A write-off opens the record or finds it open. -/
private theorem writtenOff (recounts : Recounts row entries record) (shows : Shows row job)
    (unsettled : ∀ entry ∈ entries, entry.isOutcome = false)
    (moved : entry.toStatus = JobStatus.completedReneged.name) (now : Instant) :
    Recounts (movedRow .completedReneged now row) (entries ++ [entry])
      (some (record.elim (transactionOf job "reneged" none now) fun found =>
        { found with status := "reneged" })) where
  isSome_iff := by
    simp [HistoryRow.isOutcome_eq moved, JobStatus.isSettlementOwned]
  mirrors := by
    rintro _ ⟨⟩
    cases record with
    | none => exact ⟨shows.userId, shows.amountSats, shows.invoiceId⟩
    | some found =>
      obtain ⟨userId, amountSats, invoiceId⟩ := recounts.mirrors found rfl
      exact ⟨userId, amountSats, invoiceId⟩
  status := by
    rintro _ ⟨⟩
    have word : outcome (entries ++ [entry]) = "reneged" := by
      rw [outcome_concat_of_open unsettled]
      simp [outcome, HistoryRow.enters_eq moved]
    cases record <;> exact word.symm
  isPaid_iff := by
    rintro _ ⟨⟩
    cases record with
    | none => simp [transactionOf]
    | some found =>
      have unpaid := recounts.isPaid_iff found rfl
      rw [recounts.status found rfl, outcome_of_open unsettled] at unpaid
      simpa using unpaid
  paidAt := by
    rintro _ ⟨⟩ other member payment
    rcases List.mem_append.mp member with old | new
    · rw [HistoryRow.isPayment_of_free (unsettled other old)] at payment
      cases payment
    · obtain rfl := List.mem_singleton.mp new
      rw [HistoryRow.isPayment_eq moved] at payment
      cases payment

/-- A payment finds the record open or written off. -/
private theorem settled (recounts : Recounts row entries record) (logged : Logged entries row)
    (shows : Shows row job) {next : JobStatus} {paymentStatus : String}
    (target : settlementTarget job = .ok (next, paymentStatus)) (fresh : TransactionRow)
    (moved : entry.toStatus = next.name) {now : Instant} (dated : entry.createdAt = now.stored) :
    Recounts (movedRow next now row) (entries ++ [entry])
      (some (record.elim fresh fun found =>
        { found with status := paymentStatus, paidAt := some now.stored })) := by
  -- The record is there, and nothing was paid before.
  obtain ⟨present, unpaid, paid, word⟩ : record.isSome ∧
      (∀ entry ∈ entries, entry.isPayment = false) ∧ next.isPaid ∧
        (paymentStatus = "paid" ∨ paymentStatus = "eventual") ∧
          paymentStatus = outcome (entries ++ [entry]) := by
    rcases settlementTarget_eq_ok target with ⟨reneged, rfl, rfl⟩ | ⟨invoiced, underWay, rfl, rfl⟩
    · have stands := shows.status
      rw [reneged] at stands
      exact ⟨recounts.isSome_iff.mpr (.inr (logged.any_isOutcome stands)),
        logged.not_isPayment stands, rfl, .inr rfl, (outcome_concat_eventual moved).symm⟩
    · have started : job.status.isTerminal = false := by
        rcases underWay with same | same <;> rw [same] <;> rfl
      have unsettled := logged.not_isOutcome shows.status started
      refine ⟨recounts.isSome_iff.mpr (.inl ?_), ?_, rfl, .inl rfl, ?_⟩
      · rw [← shows.invoiceId]
        exact Option.isSome_iff_ne_none.mpr invoiced
      · intro entry member
        exact HistoryRow.isPayment_of_free (unsettled entry member)
      · rw [outcome_concat_of_open unsettled]
        simp [outcome, HistoryRow.enters_eq moved]
  obtain ⟨found, rfl⟩ := Option.isSome_iff_exists.mp present
  have payment : entry.isPayment := by rw [HistoryRow.isPayment_eq moved, paid]
  exact {
    isSome_iff := by simp [HistoryRow.isOutcome, payment]
    mirrors := by
      rintro _ ⟨⟩
      obtain ⟨userId, amountSats, invoiceId⟩ := recounts.mirrors found rfl
      exact ⟨userId, amountSats, invoiceId⟩
    status := by
      rintro _ ⟨⟩
      exact word.2
    isPaid_iff := by
      rintro _ ⟨⟩
      simpa using word.1
    paidAt := by
      rintro _ ⟨⟩ other member payment
      rcases List.mem_append.mp member with old | new
      · rw [unpaid other old] at payment
        cases payment
      · obtain rfl := List.mem_singleton.mp new
        exact congrArg some dated.symm }

end Recounts

namespace Book

variable {book after : Book} {row : JobRow}

/-! ## The table of records -/

/-- Jobs have one payment record each, and nothing else has one. -/
structure RecordsOwned (book : Book) : Prop where
  keyed : (book.transactions.map (·.jobId)).Nodup
  owned : ∀ record ∈ book.transactions, ∃ row ∈ book.jobs, row.id = record.jobId

private theorem RecordsOwned.of_grows (owned : book.RecordsOwned) (grows : Grows book after)
    (same : after.transactions = book.transactions) : after.RecordsOwned where
  keyed := same ▸ owned.keyed
  owned record member := grows.jobs _ (owned.owned record (same ▸ member))

/-- A record that is written goes where one of that job is, if there is one. -/
private theorem RecordsOwned.of_recordRows (owned : book.RecordsOwned) (grows : Grows book after)
    {fresh : TransactionRow} {change : TransactionRow → TransactionRow}
    (written : after.transactions = recordRows book.transactions fresh change)
    (keeps : ∀ record, (change record).jobId = record.jobId)
    (present : ∃ row ∈ book.jobs, row.id = fresh.jobId) : after.RecordsOwned := by
  have keeps' (record : TransactionRow) (here : record.jobId = fresh.jobId) :
      (change record).jobId = fresh.jobId := (keeps record).trans here
  refine ⟨written ▸ nodup_putUnder owned.keyed keeps', fun record member => ?_⟩
  rw [written] at member
  rcases mem_keys_of_putUnder keeps' member with same | old
  · rw [same]
    exact grows.jobs _ present
  · obtain ⟨other, listed, same⟩ := List.mem_map.mp old
    rw [← same]
    exact grows.jobs _ (owned.owned other listed)

theorem RecordsOwned.change (owned : book.RecordsOwned) {deed : Deed}
    (change : Change book deed after) : after.RecordsOwned := by
  have grows := change.grows
  cases change with
  | quiet steps => exact owned.of_grows grows (steps_eq _ Quiet.transactions steps)
  | invoiced member shows | settled member shows | writtenOff member shows =>
    exact owned.of_recordRows grows rfl (fun _ => rfl) ⟨_, member, shows.id.symm⟩

/-! ## All records -/

/-- The payment records are what the jobs and the history say. -/
structure PaymentsRecorded (book : Book) : Prop extends RecordsOwned book where
  recounts : ∀ row ∈ book.jobs, Recounts row (book.movesOf row.id) (book.transactionRow? row.id)

theorem paymentsRecorded_empty : PaymentsRecorded .empty where
  keyed := .nil
  owned _ member := by cases member
  recounts _ member := by cases member

/-- A change that reaches one job keeps the records of all others. -/
private theorem PaymentsRecorded.of_confined (recorded : book.PaymentsRecorded)
    (keyed : book.JobsKeyed) (member : row ∈ book.jobs) {update : JobRow → JobRow}
    (confined : Confined row.id update book after) (owned : after.RecordsOwned)
    (apart : ∀ other, other ≠ row.id → after.movesOf other = book.movesOf other)
    (here : Recounts (update row) (after.movesOf row.id) (after.transactionRow? row.id)) :
    after.PaymentsRecorded where
  toRecordsOwned := owned
  recounts := by
    intro other present
    rw [confined.jobs] at present
    rcases mem_updateJobs keyed member present with rfl | ⟨old, elsewhere⟩
    · rw [confined.idKept]
      exact here
    · rw [apart _ elsewhere, confined.records _ elsewhere]
      exact recorded.recounts other old

/-- The record of a new job is not there, and its only move is its creation. -/
private theorem PaymentsRecorded.jobAdded (recorded : book.PaymentsRecorded)
    (logged : book.Recorded) {id : String} (request : NewJob) (now : Instant)
    (fresh : ∀ row ∈ book.jobs, row.id ≠ id) (owned : (book.jobAdded id request now).RecordsOwned) :
    (book.jobAdded id request now).PaymentsRecorded where
  toRecordsOwned := owned
  recounts := by
    obtain ⟨entry, history, jobId, moved⟩ : ∃ entry : HistoryRow,
        (book.jobAdded id request now).history = book.history ++ [entry] ∧ entry.jobId = id ∧
          entry.toStatus = JobStatus.pending.name := ⟨_, rfl, rfl, rfl⟩
    intro row present
    rw [movesOf_of_append history, jobId]
    rcases List.mem_append.mp present with old | new
    · rw [if_neg (Ne.symm (fresh row old)), List.append_nil]
      exact recorded.recounts row old
    · obtain rfl := List.mem_singleton.mp new
      have unwritten : book.transactionRow? id = none := by
        rw [transactionRow?, List.find?_eq_none]
        intro record listed same
        obtain ⟨row, member, owns⟩ := recorded.owned record listed
        exact fresh row member (owns.trans (by simpa using same))
      have unheard := logged.movesOf_eq_nil fresh
      change Recounts _ (book.movesOf id ++ if id = id then [entry] else []) (book.transactionRow? id)
      rw [unwritten, unheard, if_pos rfl]
      exact .newJob id request now moved

private theorem PaymentsRecorded.quiet (recorded : book.PaymentsRecorded) (keyed : book.JobsKeyed)
    (logged : book.Recorded) (step : Quiet book after) : after.PaymentsRecorded := by
  have owned := recorded.toRecordsOwned.of_grows step.grows step.transactions
  cases step with
  | userAdded => exact ⟨owned, recorded.recounts⟩
  | jobAdded id request now fresh => exact recorded.jobAdded logged request now fresh owned
  | @moved row member current next _ _ note stands law now =>
    obtain ⟨entry, moves⟩ := moves_moved stands law now
    apply recorded.of_confined keyed member (confined_moved law now) owned
    · intro other apart
      rw [moves.movesOf_eq, if_neg (Ne.symm apart), List.append_nil]
    · rw [moves.movesOf_eq, if_pos rfl]
      have moved : entry.toStatus = next.name := moves.status.symm.trans (law.status_note now row)
      have free : entry.isOutcome = false := by
        rw [HistoryRow.isOutcome_eq moved, law.not_settlementOwned]
      exact ((recorded.recounts row member).of_sameTerms (law.sameTerms now row)).concat free
  | coded id code =>
    by_cases known : ∃ row ∈ book.jobs, row.id = id
    · obtain ⟨row, member, rfl⟩ := known
      exact recorded.of_confined keyed member (confined_coded row.id code) owned (fun _ _ => rfl)
        ((recorded.recounts row member).of_sameTerms (sameTerms_codedRow code row))
    · rw [updateJob_of_absent (by simpa using known)]
      exact recorded

private theorem PaymentsRecorded.change (recorded : book.PaymentsRecorded) (keyed : book.JobsKeyed)
    (logged : book.Recorded) {deed : Deed} (change : Change book deed after) :
    after.PaymentsRecorded := by
  have owned := recorded.toRecordsOwned.change change
  cases change with
  | quiet steps =>
    induction steps using Relation.ReflTransGen.head_induction_on with
    | refl => exact recorded
    | head first _ ih =>
      exact ih (recorded.quiet keyed logged first) (first.jobsKeyed keyed)
        (logged.quiet keyed first)
  | @invoiced row member job shows uninvoiced started underWay amountSats invoiceId unused now =>
    apply recorded.of_confined keyed member (confined_invoiced shows ..) owned (fun _ _ => rfl)
    rw [transactionRow?_invoiced book shows, if_pos rfl]
    have unsettled := (logged.logged row member).not_isOutcome shows.status underWay
    exact (recorded.recounts row member).invoiced shows uninvoiced unsettled amountSats invoiceId now
  | @settled row member job shows unpaid next paymentStatus target now answer answered =>
    obtain ⟨entry, moves⟩ := moves_settled shows target now
    apply recorded.of_confined keyed member (confined_settled shows ..) owned
    · intro other apart
      rw [moves.movesOf_eq, if_neg (Ne.symm apart), List.append_nil]
    · rw [moves.movesOf_eq, if_pos rfl, transactionRow?_settled book shows, if_pos rfl]
      exact (recorded.recounts row member).settled (logged.logged row member) shows target _
        moves.status.symm moves.since.symm
  | @writtenOff row member job shows allowed now =>
    obtain ⟨entry, moves⟩ := moves_writtenOff shows allowed now
    apply recorded.of_confined keyed member (confined_writtenOff shows now) owned
    · intro other apart
      rw [moves.movesOf_eq, if_neg (Ne.symm apart), List.append_nil]
    · rw [moves.movesOf_eq, if_pos rfl, transactionRow?_writtenOff book shows, if_pos rfl]
      have underWay : job.status.isTerminal = false := by
        revert allowed
        cases job.status <;> decide
      have unsettled := (logged.logged row member).not_isOutcome shows.status underWay
      exact (recorded.recounts row member).writtenOff shows unsettled moves.status.symm now

theorem PaymentsRecorded.session (recorded : book.PaymentsRecorded) (intact : book.Intact)
    (logged : book.Recorded) (operations : List Operation) :
    (book.session operations).2.PaymentsRecorded := by
  induction operations generalizing book with
  | nil => exact recorded
  | cons operation rest ih =>
    have change := perform_change intact.jobsKeyed operation
    exact ih (recorded.change intact.jobsKeyed logged change) (intact.perform operation)
      (logged.perform intact.jobsKeyed operation)

/-! ## What leaves the records alone -/

/-- A step that writes no payment record and gives none a reason to be written. -/
structure LeavesPayments (book after : Book) : Prop where
  transactions : after.transactions = book.transactions
  terms : ∀ row ∈ book.jobs, KeepsTerms row after
  outcome : ∀ id, outcome (after.movesOf id) = outcome (book.movesOf id)

private theorem LeavesPayments.refl (book : Book) : LeavesPayments book book :=
  ⟨rfl, fun _ => .of_mem, fun _ => rfl⟩

private theorem LeavesPayments.trans {last : Book} (first : LeavesPayments book after)
    (second : LeavesPayments after last) : LeavesPayments book last where
  transactions := second.transactions.trans first.transactions
  terms row member := by
    obtain ⟨other, listed, terms⟩ := first.terms row member
    obtain ⟨final, present, kept⟩ := second.terms other listed
    exact ⟨final, present, terms.trans kept⟩
  outcome id := (second.outcome id).trans (first.outcome id)

private theorem Quiet.leavesPayments (step : Quiet book after) : LeavesPayments book after := by
  refine ⟨step.transactions, fun _ => step.keepsTerms, fun id => ?_⟩
  have silent {entry : HistoryRow} (next : JobStatus) (free : next.isSettlementOwned = false)
      (history : after.history = book.history ++ [entry]) (moved : entry.toStatus = next.name) :
      JobRelay.outcome (after.movesOf id) = JobRelay.outcome (book.movesOf id) := by
    rw [movesOf_of_append history]
    split
    · exact outcome_concat ((HistoryRow.isOutcome_eq moved).trans free)
    · rw [List.append_nil]
  cases step with
  | userAdded => rfl
  | jobAdded => exact silent .pending rfl rfl rfl
  | @moved _ _ _ next _ _ _ _ law => exact silent next law.not_settlementOwned rfl rfl
  | coded => rfl

/-- What moves no money leaves the payments alone. -/
theorem Change.leavesPayments (change : Change book .nothing after) : LeavesPayments book after := by
  cases change with
  | quiet steps =>
    induction steps with
    | refl => exact .refl book
    | tail _ last ih => exact ih.trans last.leavesPayments

/-- After every session the payment records are what the jobs and the history say, and no override
of an operator changes that. -/
theorem paymentsRecorded_session (operations : List Operation) :
    (Book.empty.session operations).2.PaymentsRecorded ∧
      ∀ id next reason now, LeavesPayments (Book.empty.session operations).2
        ((Book.empty.session operations).2.perform (.forceStatus id next reason now)).2 := by
  have intact := intact_empty.session operations
  refine ⟨paymentsRecorded_empty.session intact_empty recorded_empty operations, ?_⟩
  intro id next reason now
  exact (perform_change intact.jobsKeyed (.forceStatus id next reason now)).leavesPayments

end Book

end JobRelay
