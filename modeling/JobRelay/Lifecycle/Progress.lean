import JobRelay.Book.Basic
import JobRelay.Lifecycle.Error
import JobRelay.Text.Blank

/-! # Progress of a job

What agents and operators do to a job that is under way: report its status, put an invoice on it,
relay a one-time code, and force its status.
-/

namespace JobRelay.Book

def requireJob (book : Book) (id : String) : Except TransitionError Job := do
  match ← book.fetchJob id with
  | some job => return job
  | none => throw (.notFound id)

/-- Moves a job from the status it was read in. -/
def moveJob (book : Book) (job : Job) (next : JobStatus) (now : Instant) :
    Except TransitionError Book :=
  match book.moveJob? job.id job.status next now with
  | some book => .ok book
  | none => .error (.forbidden job.status next)

/-- The row of a job with a report written into it. What a report leaves open stays as it is. -/
def reportedRow (report : AgentReport) (row : JobRow) : JobRow :=
  { row with
    outreachCount := Amount.add row.outreachCount (if report.status = .outreachSent then 1 else 0)
    nextOutreachAt := (report.nextOutreachAt.map Instant.stored).or row.nextOutreachAt
    accessEndDate := (report.accessEndDate.map Date.format).or row.accessEndDate
    billingDate := (report.billingDate.map Date.format).or row.billingDate }

def applyReport (book : Book) (id : String) (report : AgentReport) (now : Instant) :
    Except TransitionError (Job × Book) := do
  let job ← book.requireJob id
  if !report.status.isAgentReportable || !job.status.canMoveTo report.status then
    throw (.forbidden job.status report.status)
  let book ← book.moveJob job report.status now
  let book := book.updateJob id (reportedRow report)
  let book ← book.recordMove id (some job.status) report.status .agent report.note now
  return (← book.requireJob id, book)

/-- Writes price and invoice into the row of a job. No two jobs carry one invoice. -/
def writeInvoice (book : Book) (id : String) (amountSats : Int) (invoiceId : String) :
    Except StoreError Book :=
  if book.jobs.any fun row => row.id != id && row.invoiceId == some invoiceId then
    .error .duplicateInvoice
  else
    .ok (book.updateJob id fun row =>
      { row with amountSats := some amountSats, invoiceId := some invoiceId })

def openTransaction (job : Job) (amountSats : Int) (invoiceId : String) (now : Instant) :
    TransactionRow :=
  { jobId := job.id
    userId := job.userId
    amountSats := some amountSats
    invoiceId := some invoiceId
    status := "pending"
    paidAt := none
    createdAt := now.stored }

/-- Puts price and invoice on a job, opens its payment record and adds the price to the user's
debt. A job is invoiced once, while it is neither waiting nor over. -/
def attachInvoice (book : Book) (id : String) (amountSats : Int) (invoiceId : String)
    (now : Instant) : Except TransitionError (Job × Book) := do
  let job ← book.requireJob id
  if job.status = .pending ∨ job.status.isTerminal then
    throw (.notAllowed job.status.name "invoiced")
  if let some existing := job.invoiceId then
    throw (.alreadyInvoiced id existing)
  let book ← book.writeInvoice id amountSats invoiceId
  let book ← book.changeDebt job.userId (Amount.add · amountSats)
  let book ← book.recordTransaction (openTransaction job amountSats invoiceId now) fun row =>
    { row with amountSats := some amountSats, invoiceId := some invoiceId }
  return (← book.requireJob id, book)

/-- Leaves a one-time code for the agent of a job that waits for one. -/
def submitOtp (book : Book) (id code : String) : Except TransitionError Book := do
  book.need .jobs
  if book.jobs.any fun row => row.id == id && row.status == JobStatus.awaitingOtp.name then
    return { book with
      jobs := book.jobs.map fun row =>
        if row.id = id ∧ row.status = JobStatus.awaitingOtp.name then
          { row with otpCode := some (Text.trim code) }
        else row }
  else
    let job ← book.requireJob id
    throw (.notAllowed job.status.name "otp_submitted")

/-- Hands the waiting code over and forgets it. -/
def takeOtp (book : Book) (id : String) : Except StoreError (Option String × Book) := do
  book.need .jobs
  match (book.jobRow? id).bind (·.otpCode) with
  | some code => return (some code, book.updateJob id fun row => { row with otpCode := none })
  | none => return (none, book)

def forceStatus (book : Book) (id : String) (next : JobStatus) (reason : String) (now : Instant) :
    Except TransitionError (Job × Book) := do
  let reason := Text.trim reason
  if reason.isEmpty then throw .missingReason
  let job ← book.requireJob id
  if !job.status.canForceTo next then throw (.forbidden job.status next)
  let book ← book.moveJob job next now
  let book ← book.recordMove id (some job.status) next .operator (some reason) now
  return (← book.requireJob id, book)

end JobRelay.Book
