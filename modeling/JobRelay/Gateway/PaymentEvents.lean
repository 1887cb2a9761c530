import JobRelay.Access.WebhookSignature
import JobRelay.Gateway.OperatorDesk

/-! # Payment events

The provider reports payments. An event counts if it is signed with the webhook secret, says that
an invoice has been paid, and the provider, asked again, confirms it. An event that comes twice is
acknowledged twice and settles once.
-/

namespace JobRelay.Gateway

open Shape

def eventSignatureHeader : String := "BTCPay-Sig"

/-- The kinds of event that say that an invoice has been paid. -/
def settledEvents : List String := ["InvoiceSettled", "InvoicePaymentSettled"]

structure PaymentEvent where
  kind : String
  invoiceId : Option String
deriving DecidableEq, Repr

def PaymentEvent.shape : Shape PaymentEvent := fun d => do
  let found ← fields [.of "type" text .always, .of "invoiceId" (optional text)] d
  return {
    kind := ← need found "type" text
    invoiceId := ← get found "invoiceId" (optional text) none }

/-- Settles the job that carries a paid invoice. -/
def settleInvoice (g : Gateway) (invoiceId : String) (now : Instant) : Response × Gateway :=
  g.change (g.book.settleByInvoice invoiceId now)
    (fun error =>
      match error with
      | .alreadyPaid _ => wordAnswer "already_settled"
      | error => outcomeAnswer (.refused error))
    fun job => .ok (.record [("status", .text "settled"), ("job", job.datum)])

/-- Asks the provider, if there is one, before an invoice is settled. -/
def confirmInvoice (g : Gateway) (invoiceId : String) (now : Instant) : Response × Gateway :=
  match g.invoices with
  | none => g.settleInvoice invoiceId now
  | some provider =>
    let (answer, provider) := provider.isSettled invoiceId
    let g := { g with invoices := some provider }
    match answer with
    | .ok true => g.settleInvoice invoiceId now
    | .ok false => (.refusal 400 "Invoice not settled", g)
    | .error error => (paymentRefusal error, g)

def takeEvent (g : Gateway) (r : Request) (now : Instant) : Response × Gateway :=
  if !r.bodyFits then (.bare 413, g)
  else if !webhookSignatureHolds (g.webhookSecret.getD "") r.body
      ((r.header? eventSignatureHeader).getD "") then
    (.refusal 401 "Invalid signature", g)
  else
    match Shape.readJson PaymentEvent.shape r.body with
    | .error _ => (.refusal 400 "Invalid JSON payload", g)
    | .ok event =>
      if !settledEvents.contains event.kind then (wordAnswer "ignored", g)
      else
        match event.invoiceId.filter fun id => !id.isEmpty with
        | none => (.refusal 400 "Missing invoiceId", g)
        | some invoiceId => g.confirmInvoice invoiceId now

end JobRelay.Gateway
