import JobRelay.Access.Authenticator
import JobRelay.Book.Basic
import JobRelay.Config.Basic
import JobRelay.Gateway.Request
import JobRelay.Job.Forms
import JobRelay.Lifecycle.Error
import JobRelay.Payment.PayServer

/-! # The gateway

What the gateway holds between requests: the settings, the book, the authenticator of agents, the
secrets of operator and payment events, and the provider of invoices. A refused change of the book
leaves the book as it was.
-/

namespace JobRelay

structure Gateway where
  config : Config
  book : Book
  agents : Authenticator
  operatorToken : Option String
  webhookSecret : Option String
  invoices : Option InvoiceProvider

/-- A thousand million ticks, one for each nanosecond. -/
def ticksPerSecond : Nat := 1000000000

def AgentConfig.authenticator (c : AgentConfig) : Authenticator :=
  .create c.sharedSecret c.timestampWindowSecs
    { ttl := c.nonceTtlSecs * ticksPerSecond, capacity := c.nonceCapacity }
    { maxPerWindow := c.rateLimitPerWindow, window := c.rateLimitWindowSecs * ticksPerSecond }

namespace Gateway

def create (config : Config) (book : Book) : Gateway :=
  { config
    book
    agents := config.agent.authenticator
    operatorToken := config.gateway.operatorToken.bind Text.nonBlank?
    webhookSecret := config.payments.webhookSecret.bind Text.nonBlank?
    invoices := InvoiceProvider.ofConfig? config.payments }

/-- The answer to a fault of the book, which is not told. -/
def storeRefusal (_ : StoreError) : Response := .refusal 500 "Internal error"

def moveRefusal : TransitionError → Response
  | .store cause => storeRefusal cause
  | error => .refusal error.statusCode error.message

/-- The answer to a fault of the provider. -/
def paymentRefusal : PaymentError → Response
  | .notConfigured => .refusal 503 "Invoice provider not configured"
  | .request _ | .status _ _ => .refusal 502 "Invoice provider unavailable"

/-- Answers with what is read off the book. -/
def look {ε α : Type} (g : Gateway) (result : Except ε α) (refused : ε → Response)
    (answer : α → Response) : Response × Gateway :=
  match result with
  | .ok value => (answer value, g)
  | .error error => (refused error, g)

/-- Answers with what a change of the book gives and keeps the changed book. -/
def change {ε α : Type} (g : Gateway) (result : Except ε (α × Book)) (refused : ε → Response)
    (answer : α → Response) : Response × Gateway :=
  match result with
  | .ok (value, book) => (answer value, { g with book })
  | .error error => (refused error, g)

/-- Goes on with what was read from the request, or answers at once. -/
def withInput {α : Type} (g : Gateway) (input : Except Response α)
    (next : α → Response × Gateway) : Response × Gateway :=
  match input with
  | .ok value => next value
  | .error response => (response, g)

def jobAnswer (job : Job) : Response := .ok (.record [("job", job.datum)])

def jobsAnswer (jobs : List Job) : Response :=
  .ok (.record [("jobs", .list (jobs.map Job.datum))])

def jobMissing : Response := .refusal 404 "Job not found"

/-- The answer that consists of a word. -/
def wordAnswer (status : String) : Response := .ok (.record [("status", .text status)])

end Gateway

end JobRelay
