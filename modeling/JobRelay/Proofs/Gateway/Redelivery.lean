import JobRelay.Gateway.Handle
import JobRelay.Proofs.Money.Overrides

/-! # Payments that are reported twice

The provider may report a payment again at any time after it was settled. Such a delivery never
touches the book. It is acknowledged as long as the job stands paid; once the operator has forced
the job to another end, it is refused by where the job stands.
-/

namespace JobRelay.Gateway

variable {g : Gateway} {r : Request} {invoiceId : String}

/-- A request reports that an invoice has been paid: it comes as an event that is signed, and the
provider, if there is one, confirms it. -/
structure Delivers (g : Gateway) (r : Request) (invoiceId : String) : Prop where
  method : r.method = "POST"
  path : r.path = "/webhooks/payment"
  signed : webhookSignatureHolds (g.webhookSecret.getD "") r.body
    ((r.header? eventSignatureHeader).getD "")
  event : ∃ kind ∈ settledEvents,
    Shape.readJson PaymentEvent.shape r.body = .ok { kind, invoiceId := some invoiceId }
  confirmed : ∀ provider ∈ g.invoices, (provider.isSettled invoiceId).1 = .ok true

/-- The request keeps within the limit of its body and names an invoice. -/
structure Arrives (r : Request) (invoiceId : String) : Prop where
  declared : r.declaresTooMuch = false
  fits : r.bodyFits
  named : invoiceId ≠ ""

/-! ## How far a delivery comes -/

private theorem handle_of_delivers (delivers : Delivers g r invoiceId) (now : Instant)
    (tick : Nat) :
    g.handle r now tick =
      if r.declaresTooMuch then (.bare 413, g) else g.takeEvent r now := by
  have away : isAgentPath "/webhooks/payment" = false := by decide
  have found : Route.ofPath? "/webhooks/payment" = some .paymentWebhook := by decide
  have passes : g.limitRate r tick = (none, g) := by
    rw [limitRate, delivers.path, if_neg (by simp [away])]
  have answers : Route.paymentWebhook.answers "POST" = true := by decide
  have whole : ¬"POST" = "HEAD" := by decide
  rw [handle, answer, passes]
  simp only [delivers.path, found, guarded, serve, delivers.method, answers, if_neg whole]
  rfl

private theorem takeEvent_of_delivers (delivers : Delivers g r invoiceId) (now : Instant) :
    g.takeEvent r now =
      if !r.bodyFits then (.bare 413, g)
      else if invoiceId.isEmpty then (.refusal 400 "Missing invoiceId", g)
      else g.confirmInvoice invoiceId now := by
  obtain ⟨kind, settles, read⟩ := delivers.event
  have listed : settledEvents.contains kind := by simpa using settles
  have named : (some invoiceId).filter (fun id => !id.isEmpty) =
      if invoiceId.isEmpty then none else some invoiceId := by
    rw [Option.filter]
    cases invoiceId.isEmpty <;> rfl
  rw [takeEvent, delivers.signed, read]
  simp only [listed, named]
  cases invoiceId.isEmpty <;> rfl

/-- A confirmed payment is settled; only the provider has been asked in between. -/
private theorem confirmInvoice_of_delivers (delivers : Delivers g r invoiceId) (now : Instant) :
    ∃ invoices, g.confirmInvoice invoiceId now =
      { g with invoices }.settleInvoice invoiceId now := by
  unfold confirmInvoice
  cases provided : g.invoices with
  | none => exact ⟨g.invoices, rfl⟩
  | some provider =>
    have confirmed := delivers.confirmed provider provided
    exact ⟨some (provider.isSettled invoiceId).2, by simp only [confirmed]⟩

/-- What is answered to a payment that is refused. -/
def refusedPayment : SettlementError → Response
  | .alreadyPaid _ => wordAnswer "already_settled"
  | error => outcomeAnswer (.refused error)

private theorem settleInvoice_of_error {now : Instant} {cause : SettlementError}
    (refused : g.book.settleByInvoice invoiceId now = .error cause) :
    g.settleInvoice invoiceId now = (refusedPayment cause, g) := by
  unfold settleInvoice Gateway.change
  rw [refused]
  rfl

/-- A delivery whose payment is refused leaves the book alone, and if it arrives it is answered
with the refusal. -/
theorem handle_of_refused (delivers : Delivers g r invoiceId) {now : Instant} (tick : Nat)
    {cause : SettlementError} (refused : g.book.settleByInvoice invoiceId now = .error cause) :
    (g.handle r now tick).2.book = g.book ∧
      (Arrives r invoiceId → (g.handle r now tick).1 = refusedPayment cause) := by
  obtain ⟨invoices, confirmed⟩ := confirmInvoice_of_delivers delivers now
  have asked : g.confirmInvoice invoiceId now = (refusedPayment cause, { g with invoices }) :=
    confirmed.trans (settleInvoice_of_error refused)
  rw [handle_of_delivers delivers, takeEvent_of_delivers delivers, asked]
  constructor
  · split
    · rfl
    · split
      · rfl
      · split <;> rfl
  · intro arrives
    rw [arrives.declared, arrives.fits, if_neg (by decide), if_neg (by decide),
      if_neg (by simpa using arrives.named)]

/-! ## After a settlement -/

/-- What a delivery under the invoice of a settled job comes to: the book stays as it is, and the
delivery, if it arrives, is acknowledged, or after an override refused by where the job stands. -/
structure Redelivered (g : Gateway) (r : Request) (now : Instant) (tick : Nat) (row : JobRow)
    (invoiceId : String) (overridden : Bool) : Prop where
  book : (g.handle r now tick).2.book = g.book
  acknowledged : overridden = false → Arrives r invoiceId →
    (g.handle r now tick).1 = wordAnswer "already_settled"
  refused : overridden = true → Arrives r invoiceId →
    ∃ status ∈ [JobStatus.userSkip, .userAbandon, .impliedSkip, .failed],
      row.status = status.name ∧ (g.handle r now tick).1 =
        outcomeAnswer (.refused (.notPayable row.id ("cannot settle from " ++ status.name)))

/-- Whatever is done after a job was settled, a payment that is reported again under its invoice
changes nothing, and it is acknowledged unless the operator has forced the job meanwhile. The
gateway may have raised and closed any alerts on the way. -/
theorem redelivered_session (operations further : List Operation) {settlement : Operation}
    {job : Job}
    (settles : Event.deed
      ⟨settlement, ((Book.empty.session operations).2.perform settlement).1⟩ = .settled job)
    (delivers : Delivers g r invoiceId)
    (book : g.book =
      { (((Book.empty.session operations).2.perform settlement).2.session further).2 with
        alerts := g.book.alerts, lastAlert := g.book.lastAlert })
    {row : JobRow} (member : row ∈ g.book.jobs) (same : row.id = job.id)
    (carries : row.invoiceId = some invoiceId) (now : Instant) (tick : Nat) :
    Redelivered g r now tick row invoiceId
      ((((Book.empty.session operations).2.perform settlement).2.session further).1.any
        (Event.overrides job.id)) := by
  have start := Book.intact_empty.session operations
  have next := start.perform settlement
  have later := next.session further
  have closedAt := (Book.closedAt_of_settled start.jobsKeyed settles).session next further
  generalize (((Book.empty.session operations).2.perform settlement).2.session further).1.any
    (Event.overrides job.id) = overridden at closedAt ⊢
  have jobs := congrArg Book.jobs book
  have intact : g.book.Intact := by
    rw [book]
    exact ⟨later.tables, later.jobsKeyed, later.readable, later.invoicesKeyed⟩
  obtain ⟨other, present, told, status, stands, closed, paid⟩ := closedAt
  rw [← show g.book.jobs = _ from jobs] at present
  obtain rfl := intact.jobsKeyed.eq_of_id present member (told.trans same.symm)
  have refused := Book.settleByInvoice_of_closed intact member carries stands closed now
  obtain ⟨untouched, answered⟩ := handle_of_refused delivers tick refused
  refine ⟨untouched, ?_, ?_⟩
  · rintro rfl arrives
    rw [answered arrives, if_pos (by simpa using paid)]
    rfl
  · rintro rfl arrives
    have unpaid : status.isPaid = false := by simpa using paid
    refine ⟨status, ?_, stands, ?_⟩
    · revert closed unpaid
      cases status <;> decide
    · rw [answered arrives, if_neg (by simp [unpaid])]
      rfl

/-! ## Reports of a provider -/

/-- A signature as a provider writes it. -/
def providerSignature (secret : String) (body : List UInt8) : String :=
  String.ofList (webhookMark ++ Text.Hex.encodeChars (Hmac.code (utf8 secret) body))

private theorem bounds_of_mem_providerSignature {secret : String} {body : List UInt8} {c : Char}
    (member : c ∈ (providerSignature secret body).toList) : 48 ≤ c.toNat ∧ c.toNat < 127 := by
  have marks : webhookMark.all fun c => 48 ≤ c.toNat && c.toNat < 127 := by decide
  rw [providerSignature, String.toList_ofList] at member
  rcases List.mem_append.mp member with mark | code
  · simpa using List.all_eq_true.mp marks c mark
  · have bounds := Text.Hex.bounds_of_mem_encodeChars code
    omega

/-- What a provider signs under a secret holds under it. -/
theorem webhookSignatureHolds_providerSignature {secret : String} (given : secret.isEmpty = false)
    (body : List UInt8) : webhookSignatureHolds secret body (providerSignature secret body) := by
  have solid : ∀ c ∈ (providerSignature secret body).toList, Text.isBlank c = false := by
    intro c member
    have bounds := bounds_of_mem_providerSignature member
    simp only [Text.isBlank, Bool.or_eq_false_iff, Bool.and_eq_false_iff, decide_eq_false_iff_not,
      beq_eq_false_iff_ne]
    omega
  rw [webhookSignatureHolds, given, Text.trim_eq_self solid, providerSignature,
    String.toList_ofList, Text.dropPrefix?_append]
  simp [Text.Hex.decode?_encodeChars]

/-- A report of a provider about a payment. -/
def paymentReport (secret : String) (body : List UInt8) : Request :=
  { method := "POST"
    target := "/webhooks/payment"
    headers := [(eventSignatureHeader, providerSignature secret body)]
    body }

private theorem header?_paymentReport (secret : String) (body : List UInt8) :
    (paymentReport secret body).header? eventSignatureHeader =
      some (providerSignature secret body) := by
  have visible : Request.isVisible (providerSignature secret body) := by
    rw [Request.isVisible, List.all_eq_true]
    intro c member
    have bounds := bounds_of_mem_providerSignature member
    simp only [Bool.or_eq_true, Bool.and_eq_true, decide_eq_true_eq]
    omega
  have same : Request.sameName eventSignatureHeader eventSignatureHeader := by decide
  simp [Request.header?, paymentReport, same, visible]

/-- What a provider reports under the secret of the gateway is a delivery. -/
private theorem delivers_paymentReport {secret : String} {body : List UInt8} {kind : String}
    (shared : g.webhookSecret = some secret) (given : secret.isEmpty = false)
    (settles : kind ∈ settledEvents)
    (read : Shape.readJson PaymentEvent.shape body = .ok { kind, invoiceId := some invoiceId })
    (confirmed : ∀ provider ∈ g.invoices, (provider.isSettled invoiceId).1 = .ok true) :
    Delivers g (paymentReport secret body) invoiceId where
  method := rfl
  path := show String.ofList (("/webhooks/payment".toList.takeWhile (· != '#')).takeWhile
    (· != '?')) = "/webhooks/payment" by decide
  signed := by
    rw [shared, header?_paymentReport]
    exact webhookSignatureHolds_providerSignature given body
  event := ⟨kind, settles, read⟩
  confirmed := confirmed

/-- A job that is claimed and invoiced. -/
def invoicedJob : List Operation :=
  [.createUser "u" none "active" ⟨0, 0⟩,
    .createJob "j" ⟨"u", "s", .cancel, .scheduled, none⟩ ⟨1, 0⟩,
    .claim ["j"] ⟨2, 0⟩,
    .attachInvoice "j" 700 "i" ⟨3, 0⟩]

/-- The gateway after that job was paid. -/
def paidGateway (further : List Operation) : Gateway :=
  create { payments := { webhookSecret := some "k" } }
    (((Book.empty.session invoicedJob).2.perform (.settle "j" ⟨4, 0⟩)).2.session further).2

/-- The event about its invoice. -/
def invoicedEvent : List UInt8 :=
  utf8 "\x7b\"type\":\"InvoiceSettled\",\"invoiceId\":\"i\"\x7d"

private theorem delivers_invoicedEvent (further : List Operation) :
    Delivers (paidGateway further) (paymentReport "k" invoicedEvent) "i" :=
  have settles : "InvoiceSettled" ∈ settledEvents := by decide
  delivers_paymentReport rfl (by decide) settles (by decide +kernel) (by rintro _ ⟨⟩)

private theorem arrives_invoicedEvent : Arrives (paymentReport "k" invoicedEvent) "i" where
  declared := by decide +kernel
  fits := by decide +kernel
  named := by decide

private theorem settled_invoicedJob :
    ∃ job, Event.deed ⟨.settle "j" ⟨4, 0⟩,
      ((Book.empty.session invoicedJob).2.perform (.settle "j" ⟨4, 0⟩)).1⟩ = .settled job ∧
      job.id = "j" := by
  have settled : (Event.deed ⟨.settle "j" ⟨4, 0⟩,
      ((Book.empty.session invoicedJob).2.perform (.settle "j" ⟨4, 0⟩)).1⟩).settled?.map (·.id) =
      some "j" := by decide +kernel
  generalize Event.deed _ = deed at settled ⊢
  cases deed with
  | settled job => exact ⟨job, rfl, by simpa [Deed.settled?] using settled⟩
  | _ => simp [Deed.settled?] at settled

/-- The payment is reported again after the operator has noted a renege. -/
theorem redelivered_paymentReport :
    ∃ job, Event.deed ⟨.settle "j" ⟨4, 0⟩,
      ((Book.empty.session invoicedJob).2.perform (.settle "j" ⟨4, 0⟩)).1⟩ = .settled job ∧
      ∃ row ∈ (paidGateway [.recordRenege "j" ⟨5, 0⟩]).book.jobs,
        row.id = job.id ∧ row.invoiceId = some "i" ∧
        Redelivered (paidGateway [.recordRenege "j" ⟨5, 0⟩]) (paymentReport "k" invoicedEvent)
          ⟨6, 0⟩ 0 row "i" false := by
  obtain ⟨job, settled, same⟩ := settled_invoicedJob
  have found : ∃ row ∈ (paidGateway [.recordRenege "j" ⟨5, 0⟩]).book.jobs,
      row.id = "j" ∧ row.invoiceId = some "i" := by decide +kernel
  obtain ⟨row, member, named, carries⟩ := found
  have redelivered := redelivered_session invoicedJob [.recordRenege "j" ⟨5, 0⟩] settled
    (delivers_invoicedEvent _) rfl member (named.trans same.symm) carries ⟨6, 0⟩ 0
  have unforced : (((Book.empty.session invoicedJob).2.perform (.settle "j" ⟨4, 0⟩)).2.session
      [.recordRenege "j" ⟨5, 0⟩]).1.any (Event.overrides "j") = false := by decide +kernel
  rw [same, unforced] at redelivered
  exact ⟨job, settled, row, member, named.trans same.symm, carries, redelivered⟩

/-- After the operator has forced a paid job to fail, the payment is refused when it is reported
again. -/
theorem paymentReport_refused :
    ((Book.empty.session invoicedJob).2.perform (.settle "j" ⟨4, 0⟩)).1.isOk ∧
      (∃ row ∈ (paidGateway [.forceStatus "j" .failed "card expired" ⟨5, 0⟩]).book.jobs,
        row.id = "j" ∧ row.invoiceId = some "i") ∧
      Delivers (paidGateway [.forceStatus "j" .failed "card expired" ⟨5, 0⟩])
        (paymentReport "k" invoicedEvent) "i" ∧
      Arrives (paymentReport "k" invoicedEvent) "i" ∧
      ((paidGateway [.forceStatus "j" .failed "card expired" ⟨5, 0⟩]).handle
        (paymentReport "k" invoicedEvent) ⟨6, 0⟩ 0).1.status = 400 ∧
      (wordAnswer "already_settled").status = 200 := by
  have delivers := delivers_invoicedEvent [.forceStatus "j" .failed "card expired" ⟨5, 0⟩]
  have refused : (paidGateway [.forceStatus "j" .failed "card expired" ⟨5, 0⟩]).book.settleByInvoice
      "i" ⟨6, 0⟩ = .error (.notPayable "j" "cannot settle from failed") := by decide +kernel
  refine ⟨by decide +kernel, by decide +kernel, delivers, arrives_invoicedEvent, ?_, rfl⟩
  rw [(handle_of_refused delivers 0 refused).2 arrives_invoicedEvent]
  rfl

end JobRelay.Gateway
