import JobRelay.Config.Basic
import JobRelay.Data.Json.Printer
import JobRelay.Data.Shape
import JobRelay.Payment.Provider
import JobRelay.Text.Percent
import JobRelay.Text.Utf8

/-! # The pay server

A provider reached over HTTP: the requests that are sent to it, and what its answers mean.
-/

namespace JobRelay

/-- Where the invoices of one store are kept, and the key to it. -/
structure PayServer where
  /-- The address without slashes at its end. -/
  baseUrl : String
  storeId : String
  apiKey : String
deriving DecidableEq, Repr

structure PayRequest where
  method : String
  /-- The whole address. -/
  url : String
  authorization : String
  /-- The body, if there is one. -/
  body : Option Datum
deriving Repr

/-- The part of an address behind scheme and host. -/
def afterHost (url : String) : List Char :=
  match url.splitOn "://" with
  | _ :: rest@(_ :: _) => ("://".intercalate rest).toList.dropWhile (· != '/')
  | _ => []

def PayRequest.target (r : PayRequest) : String :=
  String.ofList (Text.Percent.encodeTarget (afterHost r.url))

structure PayResponse where
  status : Nat
  body : String
deriving DecidableEq, Repr

namespace PayServer

def name : String := "btcpay"

/-- A server by its address, store and key. -/
def create (baseUrl storeId apiKey : String) : PayServer :=
  { baseUrl := String.ofList (baseUrl.toList.reverse.dropWhile (· == '/')).reverse
    storeId
    apiKey }

/-- The server that the settings name, if they name one. -/
def ofConfig? (c : PaymentsConfig) : Option PayServer :=
  if c.hasProvider then
    match c.btcpayUrl, c.btcpayStoreId, c.btcpayApiKey with
    | some url, some store, some key => some (create url store key)
    | _, _, _ => none
  else none

def invoicesUrl (s : PayServer) : String :=
  s.baseUrl ++ "/api/v1/stores/" ++ s.storeId ++ "/invoices"

/-- The header that carries the key. -/
def authorization (s : PayServer) : String := "token " ++ s.apiKey

def invoiceRequest (s : PayServer) (request : InvoiceRequest) : PayRequest :=
  { method := "POST"
    url := s.invoicesUrl
    authorization := s.authorization
    body := some (.record [
      ("amount", .text (toString request.amountSats)),
      ("currency", .text "SATS"),
      ("metadata", .record [
        ("orderId", .text request.reference), ("itemDesc", .text request.memo)])]) }

def settledRequest (s : PayServer) (invoiceId : String) : PayRequest :=
  { method := "GET"
    url := s.invoicesUrl ++ "/" ++ invoiceId
    authorization := s.authorization
    body := none }

/-- An invoice as the server describes it. -/
structure Description where
  id : String
  status : Option String
  checkoutLink : Option String
deriving DecidableEq, Repr

open Shape in
def Description.shape : Shape Description := fun d => do
  let found ← fields
    [.of "id" text .always, .of "status" (optional text), .of "checkoutLink" (optional text)] d
  return {
    id := ← need found "id" text
    status := ← get found "status" (optional text) none
    checkoutLink := ← get found "checkoutLink" (optional text) none }

/-- What an answer says about an invoice. No answer at all is a failed request. -/
def readAnswer : Option PayResponse → Except PaymentError Description
  | none => .error (.request "connection failed")
  | some response =>
    if 200 ≤ response.status ∧ response.status < 300 then
      match Shape.readJson Description.shape (utf8 response.body) with
      | .ok description => .ok description
      | .error _ => .error (.request "error decoding response body")
    else .error (.status response.status response.body)

/-- The invoice that an answer opens. -/
def openedInvoice (answer : Option PayResponse) : Except PaymentError Invoice := do
  let description ← readAnswer answer
  return { id := description.id, checkoutLink := description.checkoutLink }

/-- The word of the server for an invoice that has been paid. -/
def settledStatus : String := "Settled"

/-- Whether an answer confirms the payment. -/
def confirmsPayment (answer : Option PayResponse) : Except PaymentError Bool := do
  let description ← readAnswer answer
  return description.status == some settledStatus

/-- The description of the server for logs, which leaves the key out. -/
def describe (s : PayServer) : String :=
  "BtcPayProvider \x7b base_url: " ++ Json.quote s.baseUrl ++
    ", store_id: " ++ Json.quote s.storeId ++ ", .. \x7d"

/-- Whether the description for logs keeps the key to itself. -/
def hidesKey (s : PayServer) : Bool :=
  let key := s.apiKey.toList
  !((List.range (s.describe.length + 1)).any fun n => key.isPrefixOf (s.describe.toList.drop n))

end PayServer

/-- The provider that the settings name. Nothing answers it until a connection is made. -/
def InvoiceProvider.ofConfig? (c : PaymentsConfig) : Option InvoiceProvider :=
  (PayServer.ofConfig? c).map fun _ => .unreachable PayServer.name

end JobRelay
