import JobRelay.Proofs.Session.Change

/-! # The account of a job

The payment record of a job goes through a small graph of stages: an invoice opens it, a settlement
or a write-off closes it, and a late payment follows a write-off. The stage decides where the job
may stand and which entries the ledger holds for it, so that no move of an agent or an operator
leads back to a status from which a payment would be booked twice.
-/

namespace JobRelay

/-- How far the payment of a job has come. -/
inductive PaymentStage where
  | unrecorded
  | pending
  | reneged
  | paid
  | eventual
deriving DecidableEq, Repr

namespace PaymentStage

/-- What the payment record says at a stage. -/
def word : PaymentStage → Option String
  | unrecorded => none
  | pending => some "pending"
  | reneged => some "reneged"
  | paid => some "paid"
  | eventual => some "eventual"

/-- Whether the payment was booked. -/
def isSettled : PaymentStage → Bool
  | paid | eventual => true
  | _ => false

/-- Whether the job was written off, be it paid later or not. -/
def isWrittenOff : PaymentStage → Bool
  | reneged | eventual => true
  | _ => false

/-- Where a job may stand at a stage. Before settlement and write-off it stands in no outcome of
theirs; after either it is over, and after a payment it cannot be settled again. -/
def allows (stage : PaymentStage) (status : JobStatus) : Bool :=
  match stage with
  | unrecorded | pending => !status.isSettlementOwned
  | reneged => status.isTerminal && !status.isPaid
  | paid | eventual => status.isTerminal && status != .completedReneged

/-- Moves of agents and operators keep a job where its stage allows. -/
theorem allows_of_move {stage : PaymentStage} {current next : JobStatus} {actor : Actor}
    {reason : Option String} {note : JobRow → JobRow}
    (law : Book.LawfulMove current next actor reason note) (allowed : stage.allows current) :
    stage.allows next := by
  have free := law.not_settlementOwned
  have unpaid : next.isPaid = false := by revert free; cases next <;> decide
  have other : next ≠ .completedReneged := by rintro rfl; cases free
  cases stage <;> simp only [allows, Bool.and_eq_true] at allowed ⊢
  case unrecorded | pending => simp [free]
  case reneged => simp [law.isTerminal allowed.1, unpaid]
  case paid | eventual => simp [law.isTerminal allowed.1, other]

/-- Payments are taken from open invoices and from write-offs, nowhere else. -/
theorem of_settlementTarget {stage : PaymentStage} {job : Job} {next : JobStatus} {word : String}
    (allowed : stage.allows job.status)
    (uninvoiced : stage = .unrecorded → job.invoiceId = none)
    (target : Book.settlementTarget job = .ok (next, word)) :
    (stage = .pending ∧ next = .completedPaid ∧ word = "paid") ∨
      (stage = .reneged ∧ next = .completedEventual ∧ word = "eventual") := by
  rcases Book.settlementTarget_eq_ok target with
    ⟨reneged, rfl, rfl⟩ | ⟨invoiced, underWay, rfl, rfl⟩
  · rw [reneged] at allowed
    exact .inr ⟨by revert allowed; cases stage <;> decide, rfl, rfl⟩
  · refine .inl ⟨?_, rfl, rfl⟩
    have started : job.status.isTerminal = false := by
      rcases underWay with same | same <;> rw [same] <;> rfl
    cases stage with
    | unrecorded => exact (invoiced (uninvoiced rfl)).elim
    | pending => rfl
    | reneged | paid | eventual => simp [allows, started] at allowed

/-- A job that is written off was not paid, and its stage was not closed before. -/
private theorem of_canMoveTo_reneged {stage : PaymentStage} {status : JobStatus}
    (allowed : stage.allows status) (edge : status.canMoveTo .completedReneged) :
    stage = .unrecorded ∨ stage = .pending := by
  have started : status.isTerminal = false := by
    revert edge
    cases status <;> decide
  cases stage with
  | unrecorded => exact .inl rfl
  | pending => exact .inr rfl
  | reneged | paid | eventual => simp [allows, started] at allowed

/-- The stage after a payment. -/
def settle : PaymentStage → PaymentStage
  | reneged => eventual
  | _ => paid

theorem word_settle {stage : PaymentStage} (other : stage ≠ .reneged) :
    stage.settle.word = some "paid" := by
  cases stage with
  | reneged => exact (other rfl).elim
  | _ => rfl

end PaymentStage

/-- What an entry of the ledger says, apart from its number and its time. -/
structure Posting where
  jobId : String
  serviceId : String
  action : String
  amountSats : Int
  paymentStatus : String
deriving DecidableEq, Repr

/-- What an entry of the ledger says, apart from its number and its time. -/
def LedgerRow.posting (entry : LedgerRow) : Posting :=
  { jobId := entry.jobId
    serviceId := entry.serviceId
    action := entry.action
    amountSats := entry.amountSats
    paymentStatus := entry.paymentStatus }

namespace JobRow

/-- A job has a positive price and an invoice, or neither. -/
def Priced (row : JobRow) : Prop :=
  (row.amountSats = none ∧ row.invoiceId = none) ∨
    ∃ amountSats invoiceId, row.amountSats = some amountSats ∧ 0 < amountSats ∧
      row.invoiceId = some invoiceId

/-- What the ledger says about a job at a stage. -/
def postings (row : JobRow) (stage : PaymentStage) : List Posting :=
  if stage.isSettled then
    row.amountSats.toList.map fun amountSats =>
      { jobId := row.id
        serviceId := row.serviceId
        action := row.action
        amountSats
        paymentStatus := stage.word.getD "" }
  else []

end JobRow

/-- A payment record repeats what it is about. -/
structure TransactionRow.Mirrors (record : TransactionRow) (row : JobRow) : Prop where
  userId : record.userId = row.userId
  amountSats : record.amountSats = row.amountSats
  invoiceId : record.invoiceId = row.invoiceId

/-- A job, its payment record and its ledger entries agree at a stage. -/
structure Account (row : JobRow) (record : Option TransactionRow) (entries : List LedgerRow)
    (stage : PaymentStage) : Prop where
  word : record.map (·.status) = stage.word
  mirrors : ∀ found ∈ record, found.Mirrors row
  stands : ∃ status : JobStatus, row.status = status.name ∧ stage.allows status
  priced : row.Priced
  unrecorded : stage = .unrecorded → row.amountSats = none
  pending : stage = .pending → row.amountSats ≠ none
  entries : entries.map LedgerRow.posting = row.postings stage

namespace Account

open Book

variable {row other : JobRow} {record : Option TransactionRow} {entries : List LedgerRow}
  {stage : PaymentStage} {job : Job}

/-- The price of a job is what a payment of it books. -/
theorem positivePrice_eq (account : Account row record entries stage) (shows : Shows row job) :
    positivePrice job = row.amountSats := by
  rw [positivePrice, shows.amountSats]
  rcases account.priced with ⟨free, _⟩ | ⟨amountSats, _, price, positive, _⟩
  · rw [free]
    rfl
  · simp [price, positive]

theorem positive (account : Account row record entries stage) {amountSats : Int}
    (price : row.amountSats = some amountSats) : 0 < amountSats := by
  rcases account.priced with ⟨free, _⟩ | ⟨_, _, same, positive, _⟩
  · rw [free] at price
    cases price
  · rw [same] at price
    cases price
    exact positive

private theorem allows (account : Account row record entries stage) (shows : Shows row job) :
    stage.allows job.status := by
  obtain ⟨status, stands, allowed⟩ := account.stands
  rw [shows.status] at stands
  rwa [JobStatus.name_inj stands]

theorem invoiceId_eq_none_iff (account : Account row record entries stage) :
    row.invoiceId = none ↔ row.amountSats = none := by
  rcases account.priced with ⟨free, uninvoiced⟩ | ⟨_, _, price, _, invoice⟩
  · simp [free, uninvoiced]
  · simp [price, invoice]

/-- A change that keeps the terms of a job and leaves it where its stage allows keeps its
account. -/
theorem of_sameTerms (account : Account row record entries stage) (terms : SameTerms row other)
    (stands : ∃ status : JobStatus, other.status = status.name ∧ stage.allows status) :
    Account other record entries stage where
  word := account.word
  mirrors found present := by
    obtain ⟨userId, amountSats, invoiceId⟩ := account.mirrors found present
    exact ⟨userId.trans terms.userId.symm, amountSats.trans terms.amountSats.symm,
      invoiceId.trans terms.invoiceId.symm⟩
  stands := stands
  priced := by
    rw [JobRow.Priced, terms.amountSats, terms.invoiceId]
    exact account.priced
  unrecorded := by rw [terms.amountSats]; exact account.unrecorded
  pending := by rw [terms.amountSats]; exact account.pending
  entries := by
    rw [account.entries, JobRow.postings, JobRow.postings, terms.id, terms.serviceId, terms.action,
      terms.amountSats]

/-- Before a payment the ledger holds nothing for a job. -/
private theorem entries_eq_nil (account : Account row record entries stage)
    (unsettled : stage.isSettled = false) : entries = [] := by
  have none := account.entries
  rw [JobRow.postings, unsettled] at none
  exact List.map_eq_nil_iff.mp none

/-- Nothing is recorded for a new job. -/
theorem newJob (id : String) (request : NewJob) (now : Instant) :
    Account (newJobRow id request now) none [] .unrecorded where
  word := rfl
  mirrors := nofun
  stands := ⟨.pending, rfl, rfl⟩
  priced := .inl ⟨rfl, rfl⟩
  unrecorded _ := rfl
  pending := nofun
  entries := rfl

/-- An invoice opens the payment of a job that has none. -/
theorem invoiced (account : Account row record entries stage) (shows : Shows row job)
    (uninvoiced : job.invoiceId = none) (underWay : job.status.isTerminal = false)
    {amountSats : Int} (positive : 0 < amountSats) (invoiceId : String) (now : Instant) :
    stage = .unrecorded ∧
      Account (pricedRow amountSats invoiceId row)
        (some (record.elim (openTransaction job amountSats invoiceId now) fun found =>
          { found with amountSats := some amountSats, invoiceId := some invoiceId }))
        entries .pending := by
  have free : row.amountSats = none :=
    account.invoiceId_eq_none_iff.mp (shows.invoiceId.symm.trans uninvoiced)
  have unrecorded : stage = .unrecorded := by
    have allowed := account.allows shows
    cases stage with
    | unrecorded => rfl
    | pending => exact (account.pending rfl free).elim
    | reneged | paid | eventual => simp [PaymentStage.allows, underWay] at allowed
  subst unrecorded
  obtain rfl : record = none := by simpa [PaymentStage.word] using account.word
  refine ⟨rfl, ?_⟩
  exact {
    word := rfl
    mirrors := by
      rintro _ ⟨⟩
      exact ⟨shows.userId, rfl, rfl⟩
    stands := account.stands
    priced := .inr ⟨amountSats, invoiceId, rfl, positive, rfl⟩
    unrecorded := nofun
    pending := by simp [pricedRow]
    entries := by rw [account.entries_eq_nil rfl]; rfl }

/-- A payment books the price of a job whose payment is open or written off. -/
theorem settled (account : Account row record entries stage) (shows : Shows row job)
    {next : JobStatus} {paymentStatus : String}
    (target : settlementTarget job = .ok (next, paymentStatus)) (fresh : TransactionRow)
    (paidAt : Option String) (now : Instant) (revenue : Int → LedgerRow)
    (posted : ∀ amountSats, (revenue amountSats).posting =
      ⟨row.id, row.serviceId, row.action, amountSats, paymentStatus⟩) :
    stage.isSettled = false ∧ some paymentStatus = stage.settle.word ∧
      Account (movedRow next now row)
        (some (record.elim fresh fun found => { found with status := paymentStatus, paidAt }))
        (entries ++ (positivePrice job).toList.map revenue) stage.settle := by
  have uninvoiced : stage = .unrecorded → job.invoiceId = none := fun unrecorded => by
    rw [shows.invoiceId, account.invoiceId_eq_none_iff]
    exact account.unrecorded unrecorded
  have allowed : stage.settle.allows next := by
    rcases PaymentStage.of_settlementTarget (account.allows shows) uninvoiced target with
      ⟨rfl, rfl, _⟩ | ⟨rfl, rfl, _⟩ <;> decide
  rcases PaymentStage.of_settlementTarget (account.allows shows) uninvoiced target with
    ⟨rfl, rfl, rfl⟩ | ⟨rfl, rfl, rfl⟩
  case inl | inr =>
    have empty := account.entries_eq_nil rfl
    obtain ⟨found, rfl, _⟩ := Option.map_eq_some_iff.mp account.word
    refine ⟨rfl, rfl, ?_⟩
    exact {
      word := rfl
      mirrors := by
        rintro _ ⟨⟩
        obtain ⟨userId, amountSats, invoiceId⟩ := account.mirrors found rfl
        exact ⟨userId, amountSats, invoiceId⟩
      stands := ⟨_, rfl, allowed⟩
      priced := account.priced
      unrecorded := nofun
      pending := nofun
      entries := by
        rw [empty, account.positivePrice_eq shows]
        cases price : row.amountSats <;> simp [JobRow.postings, movedRow, price, posted]
        rfl }

/-- A job is written off when its payment is not closed. -/
theorem writtenOff (account : Account row record entries stage) (shows : Shows row job)
    (edge : job.status.canMoveTo .completedReneged) (now : Instant) :
    (stage = .unrecorded ∨ stage = .pending) ∧
      Account (movedRow .completedReneged now row)
        (some (record.elim (transactionOf job "reneged" none now) fun found =>
          { found with status := "reneged" })) entries .reneged := by
  have before := PaymentStage.of_canMoveTo_reneged (account.allows shows) edge
  have empty := account.entries_eq_nil (by rcases before with rfl | rfl <;> rfl)
  refine ⟨before, ?_⟩
  exact {
    word := by cases record <;> rfl
    mirrors := by
      cases record with
      | none =>
        rintro _ ⟨⟩
        exact ⟨shows.userId, shows.amountSats, shows.invoiceId⟩
      | some found =>
        rintro _ ⟨⟩
        obtain ⟨userId, amountSats, invoiceId⟩ := account.mirrors found rfl
        exact ⟨userId, amountSats, invoiceId⟩
    stands := ⟨.completedReneged, rfl, by decide⟩
    priced := account.priced
    unrecorded := nofun
    pending := nofun
    entries := by rw [empty]; rfl }

end Account

end JobRelay
