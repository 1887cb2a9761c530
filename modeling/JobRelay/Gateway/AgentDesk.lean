import JobRelay.Gateway.Basic
import JobRelay.Gateway.Route
import JobRelay.Lifecycle.Dispatch
import JobRelay.Lifecycle.Progress

/-! # What agents ask for

Agents list and claim waiting jobs, report progress, price a performed job and fetch one-time
codes.
-/

namespace JobRelay.Gateway

open Shape

/-- The number of waiting jobs listed if the request names none. -/
def defaultListed : Nat := 20

def maxListed : Nat := 100

def listPending (g : Gateway) (r : Request) : Response × Gateway :=
  g.withInput (r.queryNumber "limit") fun limit =>
    g.look (g.book.listByStatus .pending (min (limit.getD defaultListed) maxListed)) storeRefusal
      jobsAnswer

def claimShape : Shape (List String) := fun d => do
  let found ← fields [.of "job_ids" (listOf text) .always] d
  need found "job_ids" (listOf text)

/-- Hands waiting jobs over. -/
def claimJobs (g : Gateway) (r : Request) (now : Instant) : Response × Gateway :=
  g.withInput (r.json claimShape) fun ids =>
    g.change (g.book.claim now ids) storeRefusal jobsAnswer

def reportJob (g : Gateway) (r : Request) (job : String) (now : Instant) : Response × Gateway :=
  g.withInput (decodeSegment job) fun id =>
    g.withInput (r.json AgentReport.shape) fun report =>
      g.change (g.book.applyReport id report now) moveRefusal jobAnswer

/-- A performed job with its price. -/
structure Completion where
  amountSats : Int
  /-- An invoice opened elsewhere, which counts only without a provider. -/
  invoiceId : Option String
deriving DecidableEq, Repr

def Completion.shape : Shape Completion := fun d => do
  let found ← fields
    [.of "amount_sats" int64 .always, .of "invoice_id" (optional text)] d
  return {
    amountSats := ← need found "amount_sats" int64
    invoiceId := ← get found "invoice_id" (optional text) none }

def invoiceRequest (job : Job) (amountSats : Int) : InvoiceRequest :=
  { amountSats
    reference := job.id
    memo := job.serviceId ++ " " ++ Named.name job.action }

/-- The invoice of a completion: the provider's, or one opened elsewhere. -/
def openInvoice (g : Gateway) (job : Job) (completion : Completion) :
    Except PaymentError Invoice × Gateway :=
  match g.invoices with
  | some provider =>
    let (answer, provider) := provider.createInvoice (invoiceRequest job completion.amountSats)
    (answer, { g with invoices := some provider })
  | none =>
    match completion.invoiceId.filter fun id => !Text.isBlankText id with
    | some id => (.ok { id, checkoutLink := none }, g)
    | none => (.error .notConfigured, g)

def invoicedAnswer (invoice : Invoice) (job : Job) : Response :=
  .ok (.record [("job", job.datum), ("checkout_link", .ofText? invoice.checkoutLink)])

/-- Prices a performed job and puts its invoice on it. -/
def completeJob (g : Gateway) (r : Request) (job : String) (now : Instant) :
    Response × Gateway :=
  g.withInput (decodeSegment job) fun id =>
    g.withInput (r.json Completion.shape) fun completion =>
      if completion.amountSats ≤ 0 then (.refusal 400 "amount_sats must be positive", g)
      else
        match g.book.fetchJob id with
        | .error error => (storeRefusal error, g)
        | .ok none => (jobMissing, g)
        | .ok (some job) =>
          match job.invoiceId with
          | some existing => (moveRefusal (.alreadyInvoiced job.id existing), g)
          | none =>
            match g.openInvoice job completion with
            | (.error error, g) => (paymentRefusal error, g)
            | (.ok invoice, g) =>
              g.change (g.book.attachInvoice id completion.amountSats invoice.id now) moveRefusal
                (invoicedAnswer invoice)

/-- Hands the waiting code over, or nothing if there is none. -/
def takeCode (g : Gateway) (job : String) : Response × Gateway :=
  g.withInput (decodeSegment job) fun id =>
    match g.book.fetchJob id with
    | .error error => (storeRefusal error, g)
    | .ok none => (jobMissing, g)
    | .ok (some _) =>
      g.change (g.book.takeOtp id) storeRefusal fun code =>
        match code with
        | some code => .ok (.record [("code", .text code)])
        | none => .bare 204

/-- Answers an agent whose request has been admitted. -/
def serveAgent (g : Gateway) (route : AgentRoute) (r : Request) (now : Instant) :
    Response × Gateway :=
  match route with
  | .pendingJobs => g.listPending r
  | .claim => g.claimJobs r now
  | .report job => g.reportJob r job now
  | .complete job => g.completeJob r job now
  | .takeOtp job => g.takeCode job

end JobRelay.Gateway
