import JobRelay.Lifecycle.Progress
import JobRelay.Settlement.Error

/-! # Settlement

The only writer of outcomes that carry money. A confirmed payment settles a job once: an invoiced
job becomes paid, a reneged job becomes paid late. The user's debt falls by the price, the ledger
gains an entry, and a late payment also lowers the debt under the user's email hash. Writing a job
off adds its price to the debt under that hash; the user's own debt holds it already.
-/

namespace JobRelay.Book

/-- What a payment makes of a job: its status and the word that goes into the records. -/
def settlementTarget (job : Job) : Except SettlementError (JobStatus × String) :=
  if job.status = .completedReneged then .ok (.completedEventual, "eventual")
  else if job.invoiceId.isNone then .error (.notPayable job.id "no invoice and not reneged")
  else if !job.status.canMoveTo .completedPaid then
    .error (.notPayable job.id ("cannot settle from " ++ job.status.name))
  else .ok (.completedPaid, "paid")

/-- The payment record of a job in its present state. -/
def transactionOf (job : Job) (status : String) (paidAt : Option String) (now : Instant) :
    TransactionRow :=
  { jobId := job.id
    userId := job.userId
    amountSats := job.amountSats
    invoiceId := job.invoiceId
    status
    paidAt
    createdAt := now.stored }

def recordRevenue (book : Book) (job : Job) (amountSats : Int) (paymentStatus : String)
    (now : Instant) : Except StoreError Book := do
  book.need .ledger
  let row : LedgerRow :=
    { id := book.lastLedger + 1
      jobId := job.id
      serviceId := job.serviceId
      action := Named.name job.action
      amountSats
      paymentStatus
      recordedAt := now.stored }
  return { book with ledger := book.ledger ++ [row], lastLedger := book.lastLedger + 1 }

/-- Lowers the debt under an email hash and drops a row without debt. -/
def lowerBlocklist (book : Book) (hash : String) (amountSats : Int) (now : Instant) :
    Except StoreError Book := do
  book.need .blocklist
  let lowered := book.blocklist.map fun row =>
    if row.emailHash = hash then
      { row with debtSats := Amount.lower row.debtSats amountSats, updatedAt := now.stored }
    else row
  return { book with
    blocklist := lowered.filter fun row => !(row.emailHash == hash && row.debtSats == 0) }

/-- Adds to the debt under an email hash. -/
def raiseBlocklist (book : Book) (hash : String) (amountSats : Int) (now : Instant) :
    Except StoreError Book := do
  book.need .blocklist
  if book.blocklist.any (·.emailHash == hash) then
    return { book with
      blocklist := book.blocklist.map fun row =>
        if row.emailHash = hash then
          { row with debtSats := Amount.add row.debtSats amountSats, updatedAt := now.stored }
        else row }
  else
    let row : BlocklistRow := { emailHash := hash, debtSats := amountSats, updatedAt := now.stored }
    return { book with blocklist := book.blocklist ++ [row] }

/-- Books a payment of a positive amount. -/
def creditPayment (book : Book) (job : Job) (amountSats : Int) (paymentStatus : String)
    (now : Instant) : Except StoreError Book := do
  let book ← book.changeDebt job.userId (Amount.lower · amountSats)
  let book ← book.recordRevenue job amountSats paymentStatus now
  if paymentStatus != "eventual" then return book
  match ← book.emailHash job.userId with
  | some hash => book.lowerBlocklist hash amountSats now
  | none => return book

def positivePrice (job : Job) : Option Int :=
  job.amountSats.filter (0 < ·)

def settle (book : Book) (id : String) (now : Instant) : Except SettlementError (Job × Book) := do
  book.need .jobs
  match ← book.fetchJob id with
  | none => throw (.notFound id)
  | some job =>
    if job.status.isPaid then throw (.alreadyPaid id)
    let (target, paymentStatus) ← settlementTarget job
    let book := (book.moveJob? job.id job.status target now).getD book
    let book ← book.recordMove job.id (some job.status) target .settlement none now
    let book ← book.recordTransaction (transactionOf job paymentStatus (some now.stored) now)
      fun row => { row with status := paymentStatus, paidAt := some now.stored }
    let book ←
      match positivePrice job with
      | some amount => book.creditPayment job amount paymentStatus now
      | none => pure book
    match ← book.fetchJob id with
    | some job => return (job, book)
    | none => throw (.notFound id)

def ownerOfInvoice (book : Book) (invoiceId : String) : Except SettlementError String := do
  book.need .jobs
  match book.jobs.find? (·.invoiceId == some invoiceId) with
  | some row => return row.id
  | none => throw (.notFound ("invoice " ++ invoiceId))

def settleByInvoice (book : Book) (invoiceId : String) (now : Instant) :
    Except SettlementError (Job × Book) := do
  book.settle (← book.ownerOfInvoice invoiceId) now

/-- Writes an unpaid job off. -/
def recordRenege (book : Book) (id : String) (now : Instant) :
    Except TransitionError (Job × Book) := do
  let job ← book.requireJob id
  if !job.status.canMoveTo .completedReneged then
    throw (.forbidden job.status .completedReneged)
  let book ← book.moveJob job .completedReneged now
  let book ← book.recordMove job.id (some job.status) .completedReneged .settlement none now
  let book ← book.recordTransaction (transactionOf job "reneged" none now)
    fun row => { row with status := "reneged" }
  let book ←
    match positivePrice job with
    | none => pure book
    | some amount =>
      match ← book.emailHash job.userId with
      | some hash => liftM (book.raiseBlocklist hash amount now)
      | none => pure book
  return (← book.requireJob id, book)

end JobRelay.Book
