import JobRelay.Data.Datum

/-! # Invoice providers

A provider opens invoices and tells whether one has been settled. It is known here by the answers
that it is going to give: they are used in turn, the last one for every further call, and the calls
made to it are kept.
-/

namespace JobRelay

/-- An opened invoice. -/
structure Invoice where
  id : String
  checkoutLink : Option String
deriving DecidableEq, Repr

/-- Why a provider gives no answer. -/
inductive PaymentError where
  | notConfigured
  | request (reason : String)
  | status (code : Nat) (body : String)
deriving DecidableEq, Repr

def PaymentError.message : PaymentError → String
  | notConfigured => "invoice provider not configured"
  | request reason => "invoice provider request failed: " ++ reason
  | status code body => "invoice provider returned " ++ toString code ++ ": " ++ body

structure InvoiceRequest where
  amountSats : Int
  /-- What the provider gives back as the order. -/
  reference : String
  memo : String
deriving DecidableEq, Repr

inductive ProviderCall where
  | createInvoice (request : InvoiceRequest)
  | isSettled (invoiceId : String)
deriving DecidableEq, Repr

def ProviderCall.datum : ProviderCall → Datum
  | createInvoice request =>
    .record [("call", .text "create_invoice"), ("amount_sats", .whole request.amountSats),
      ("reference", .text request.reference), ("memo", .text request.memo)]
  | isSettled invoiceId =>
    .record [("call", .text "is_settled"), ("invoice_id", .text invoiceId)]

/-- A provider by the answers that it is going to give. -/
structure InvoiceProvider where
  name : String
  /-- The answers to requests for invoices. -/
  openings : List (Except PaymentError Invoice)
  /-- The answers to questions about settlement. -/
  confirmations : List (Except PaymentError Bool)
  /-- The calls made so far, the first one first. -/
  calls : List ProviderCall := []

namespace InvoiceProvider

/-- The next of some answers and those that remain. The last one is never used up. -/
def next {α : Type} : List (Except PaymentError α) →
    Except PaymentError α × List (Except PaymentError α)
  | [] => (.error .notConfigured, [])
  | [answer] => (answer, [answer])
  | answer :: rest => (answer, rest)

def createInvoice (p : InvoiceProvider) (request : InvoiceRequest) :
    Except PaymentError Invoice × InvoiceProvider :=
  let (answer, openings) := next p.openings
  (answer, { p with openings, calls := p.calls ++ [.createInvoice request] })

def isSettled (p : InvoiceProvider) (invoiceId : String) :
    Except PaymentError Bool × InvoiceProvider :=
  let (answer, confirmations) := next p.confirmations
  (answer, { p with confirmations, calls := p.calls ++ [.isSettled invoiceId] })

/-- A provider that cannot be reached. -/
def unreachable (name : String) : InvoiceProvider :=
  { name
    openings := [.error (.request "connection failed")]
    confirmations := [.error (.request "connection failed")] }

end InvoiceProvider

end JobRelay
