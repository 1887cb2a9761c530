import JobRelay.Proofs.Gateway.Authority
import JobRelay.Proofs.Monitor.OpenAlerts

/-! # What requests order from the provider

An invoice that a provider has opened cannot be taken back, so it matters which requests order one.
Completions of jobs do; every other request does at most one duty on the book, and none that puts an
invoice on a job. A completion orders one invoice at most, after it has looked at its amount and at
the job, and then tries to put it on the job.
-/

namespace JobRelay

/-- The order that a call to a provider places. -/
def ProviderCall.order? : ProviderCall → Option InvoiceRequest
  | createInvoice request => some request
  | isSettled _ => none

/-- The orders placed so far, the first one first. -/
def InvoiceProvider.orders (p : InvoiceProvider) : List InvoiceRequest :=
  p.calls.filterMap ProviderCall.order?

private theorem InvoiceProvider.orders_createInvoice (p : InvoiceProvider)
    (request : InvoiceRequest) : (p.createInvoice request).2.orders = p.orders ++ [request] :=
  List.filterMap_append

private theorem InvoiceProvider.orders_isSettled (p : InvoiceProvider) (invoiceId : String) :
    (p.isSettled invoiceId).2.orders = p.orders :=
  List.filterMap_append.trans (List.append_nil _)

/-- A duty that puts no invoice on a job. -/
def Duty.Invoiceless : Duty → Prop
  | operate (.attachInvoice ..) => False
  | _ => True

theorem Book.attend_operate {ε α : Type} {book : Book} {operation : Operation}
    {refusal : ε → Refusal} {reply : α → Reply} {result : Except ε (α × Book)}
    (applies : operation.apply book = Operation.answer refusal reply result) :
    (book.attend (.operate operation)).2 = (book.atomically fun _ => result).2 := by
  simp only [attend, perform, atomically, applies]
  cases result <;> rfl

namespace Gateway

variable {g after : Gateway} {r : Request} {now : Instant} {tick : Nat}

/-- What was ordered from the provider, and the answers that further orders are going to get. -/
def ordering (g : Gateway) : Option (List InvoiceRequest × List (Except PaymentError Invoice)) :=
  g.invoices.map fun provider => (provider.orders, provider.openings)

/-- The invoice that was opened on the way from one state of the gateway to the next, with its
order: none if nothing was ordered, or if the provider failed. -/
def opening? (g after : Gateway) : Option (InvoiceRequest × Invoice) := do
  let (before, answers) ← g.ordering
  let (orders, _) ← after.ordering
  let order ← (orders.drop before.length).head?
  let invoice ← (InvoiceProvider.next answers).1.toOption
  return (order, invoice)

theorem opening?_of_same (same : after.ordering = g.ordering) : g.opening? after = none := by
  rw [opening?, same]
  cases g.ordering <;> simp

/-- What is opened on the way of one order is what the provider answers to it. -/
theorem opening?_createInvoice {provider : InvoiceProvider} (present : g.invoices = some provider)
    {order : InvoiceRequest} (ordered : after.invoices = some (provider.createInvoice order).2) :
    g.opening? after = (provider.createInvoice order).1.toOption.map (Prod.mk order) := by
  have before : g.ordering = some (provider.orders, provider.openings) := by
    rw [ordering, present]
    rfl
  have later : after.ordering =
      some (provider.orders ++ [order], (provider.createInvoice order).2.openings) := by
    rw [ordering, ordered, Option.map_some, InvoiceProvider.orders_createInvoice]
  rw [opening?, before, later]
  have answered : (InvoiceProvider.next provider.openings).1 = (provider.createInvoice order).1 := rfl
  simp only [Option.bind_eq_bind, Option.bind_some, List.drop_left, List.head?_cons, answered]
  cases (provider.createInvoice order).1 <;> rfl

/-! ## Requests that order nothing -/

/-- Nothing is ordered, and the book is as it was or as a duty leaves it that puts no invoice on a
job. -/
structure OrdersNothing (g after : Gateway) : Prop where
  ordering : after.ordering = g.ordering
  book : after.book = g.book ∨
    ∃ duty : Duty, duty.Invoiceless ∧ after.book = (g.book.attend duty).2

private theorem OrdersNothing.refl (g : Gateway) : OrdersNothing g g := ⟨rfl, .inl rfl⟩

section Answers

variable {ε α : Type}

private theorem ordersNothing_look (g : Gateway) (result : Except ε α) (refused : ε → Response)
    (answer : α → Response) : OrdersNothing g (g.look result refused answer).2 := by
  unfold look
  split <;> exact .refl g

private theorem ordersNothing_withInput {input : Except Response α} {next : α → Response × Gateway}
    (each : ∀ value, OrdersNothing g (next value).2) :
    OrdersNothing g (g.withInput input next).2 := by
  unfold withInput
  split
  · exact each _
  · exact .refl g

/-- A change that a duty makes orders nothing. -/
theorem ordersNothing_change {result : Except ε (α × Book)} (duty : Duty)
    (invoiceless : duty.Invoiceless)
    (does : (g.book.attend duty).2 = (g.book.atomically fun _ => result).2)
    (refused : ε → Response) (answer : α → Response) :
    OrdersNothing g (g.change result refused answer).2 := by
  unfold Book.atomically at does
  unfold change
  split
  · exact ⟨rfl, .inr ⟨duty, invoiceless, does.symm⟩⟩
  · exact .refl g

end Answers

private theorem ordersNothing_takeCode (g : Gateway) (job : String) :
    OrdersNothing g (g.takeCode job).2 := by
  refine ordersNothing_withInput fun id => ?_
  split
  · exact .refl g
  · exact .refl g
  · exact ordersNothing_change (.operate (.takeOtp id)) trivial (Book.attend_operate rfl) ..

private theorem ordersNothing_serveOperator (g : Gateway) (route : OperatorRoute) (r : Request)
    (now : Instant) : OrdersNothing g (g.serveOperator route r now).2 := by
  cases route with
  | stuckJobs | alerts => exact ordersNothing_look ..
  | history => exact ordersNothing_withInput fun _ => ordersNothing_look ..
  | settle =>
    exact ordersNothing_withInput fun id =>
      ordersNothing_change (.operate (.settle id now)) trivial (Book.attend_operate rfl) ..
  | renege =>
    exact ordersNothing_withInput fun id =>
      ordersNothing_change (.operate (.recordRenege id now)) trivial (Book.attend_operate rfl) ..
  | acknowledge =>
    exact ordersNothing_withInput fun id =>
      ordersNothing_change (.acknowledge id) trivial rfl ..
  | runAlerts => exact ⟨rfl, .inr ⟨.check g.config.monitor now, trivial, rfl⟩⟩
  | forceStatus =>
    refine ordersNothing_withInput fun id => ordersNothing_withInput fun wanted => ?_
    split
    · exact .refl g
    · rename_i status _
      exact ordersNothing_change (.operate (.forceStatus id status wanted.reason now)) trivial
        (Book.attend_operate rfl) ..
  | submitOtp =>
    refine ordersNothing_withInput fun id => ordersNothing_withInput fun code => ?_
    split
    · exact .refl g
    · have applies : (Operation.submitOtp id code).apply g.book =
          Operation.answer .move (fun _ : Unit => .done)
            ((g.book.submitOtp id code).map fun book => ((), book)) := by
        rw [Operation.apply]
        cases g.book.submitOtp id code <;> rfl
      exact ordersNothing_change (.operate (.submitOtp id code)) trivial
        (Book.attend_operate applies) ..

private theorem ordersNothing_takeEvent (g : Gateway) (r : Request) (now : Instant) :
    OrdersNothing g (g.takeEvent r now).2 := by
  rcases takeEvent_cases g r now with same | ⟨_, invoiceId, _, _, _, _, _, same⟩
  · rw [same]
    exact .refl g
  rw [same, confirmInvoice]
  have settles (g : Gateway) : OrdersNothing g (g.settleInvoice invoiceId now).2 :=
    ordersNothing_change (.operate (.settleByInvoice invoiceId now)) trivial
      (Book.attend_operate rfl) ..
  split
  · exact settles g
  · rename_i provider present
    have asked : ordering { g with invoices := some (provider.isSettled invoiceId).2 } =
        g.ordering := by
      simp only [ordering, present, Option.map_some, InvoiceProvider.orders_isSettled]
      rfl
    dsimp only
    split
    · have settled := settles { g with invoices := some (provider.isSettled invoiceId).2 }
      exact ⟨settled.ordering.trans asked, settled.book⟩
    · exact ⟨asked, .inl rfl⟩
    · exact ⟨asked, .inl rfl⟩

/-! ## Completions -/

/-- A completion that has passed the checks that are made before its invoice is opened. -/
structure Due (book : Book) (r : Request) (place id : String) (completion : Completion)
    (job : Job) : Prop where
  named : decodeSegment place = .ok id
  read : r.json Completion.shape = .ok completion
  positive : 0 < completion.amountSats
  found : book.fetchJob id = .ok (some job)
  uninvoiced : job.invoiceId = none

/-- How an open invoice is put on its job, with the status code that tells it. -/
inductive Attaches (book : Book) (id : String) (amountSats : Int) (invoiceId : String)
    (now : Instant) : Nat → Book → Prop
  | refused {cause : TransitionError}
      (result : book.attachInvoice id amountSats invoiceId now = .error cause) :
      Attaches book id amountSats invoiceId now cause.statusCode book
  | carried {job : Job} {after : Book}
      (result : book.attachInvoice id amountSats invoiceId now = .ok (job, after)) :
      Attaches book id amountSats invoiceId now 200 after

/-- How a request ends that completes a job: turned away, without an invoice, or with one that was
opened elsewhere or by the provider. -/
inductive Completes (book : Book) (invoices : Option InvoiceProvider) (r : Request)
    (place : String) (now : Instant) : Nat → Book → Option InvoiceProvider → Prop
  | turnedAway {status : Nat} (refused : status ≠ 200) :
      Completes book invoices r place now status book invoices
  | unopened {id : String} {completion : Completion} {job : Job} {provider : InvoiceProvider}
      {error : PaymentError} {status : Nat} (due : Due book r place id completion job)
      (present : invoices = some provider)
      (failed :
        (provider.createInvoice (invoiceRequest job completion.amountSats)).1 = .error error)
      (refused : status ≠ 200) :
      Completes book invoices r place now status book
        (some (provider.createInvoice (invoiceRequest job completion.amountSats)).2)
  | given {id : String} {completion : Completion} {job : Job} {invoiceId : String} {status : Nat}
      {after : Book} (due : Due book r place id completion job) (absent : invoices = none)
      (external : completion.invoiceId = some invoiceId)
      (attaches : Attaches book id completion.amountSats invoiceId now status after) :
      Completes book invoices r place now status after none
  | opened {id : String} {completion : Completion} {job : Job} {provider : InvoiceProvider}
      {invoice : Invoice} {status : Nat} {after : Book}
      (due : Due book r place id completion job) (present : invoices = some provider)
      (opens : (provider.createInvoice (invoiceRequest job completion.amountSats)).1 = .ok invoice)
      (attaches : Attaches book id completion.amountSats invoice.id now status after) :
      Completes book invoices r place now status after
        (some (provider.createInvoice (invoiceRequest job completion.amountSats)).2)

theorem statusCode_ne (cause : TransitionError) : cause.statusCode ≠ 200 := by
  cases cause <;> simp [TransitionError.statusCode]

private theorem status_moveRefusal (cause : TransitionError) :
    (moveRefusal cause).status = cause.statusCode := by
  cases cause <;> rfl

private theorem status_paymentRefusal (error : PaymentError) :
    (paymentRefusal error).status ≠ 200 := by
  cases error <;> simp [paymentRefusal, Response.refusal]

private theorem status_json {α : Type} {shape : Shape α} {response : Response}
    (refused : r.json shape = .error response) : response.status ≠ 200 := by
  unfold Request.json at refused
  split at refused
  · cases refused
    simp [Response.bare]
  · split at refused
    · cases refused
      simp [Response.bare]
    · split at refused <;> cases refused <;> simp [Response.bare]

private theorem status_decodeSegment {place : String} {response : Response}
    (refused : decodeSegment place = .error response) : response.status ≠ 200 := by
  unfold decodeSegment at refused
  split at refused <;> cases refused
  simp [Response.bare]

/-- Putting an invoice on a job is told by the status code, and leaves the provider alone. -/
private theorem attaches_change (g : Gateway) (id : String) (amountSats : Int) (invoice : Invoice)
    (now : Instant) :
    let result := g.change (g.book.attachInvoice id amountSats invoice.id now) moveRefusal
      (invoicedAnswer invoice)
    Attaches g.book id amountSats invoice.id now result.1.status result.2.book ∧
      result.2.invoices = g.invoices := by
  unfold change
  split
  · rename_i result
    exact ⟨.carried result, rfl⟩
  · rename_i cause result
    have status := status_moveRefusal cause
    exact ⟨status ▸ .refused result, rfl⟩

theorem completes_completeJob (g : Gateway) (r : Request) (place : String) (now : Instant) :
    Completes g.book g.invoices r place now (g.completeJob r place now).1.status
      (g.completeJob r place now).2.book (g.completeJob r place now).2.invoices := by
  unfold completeJob withInput
  split
  swap
  · rename_i refused
    exact .turnedAway (status_decodeSegment refused)
  rename_i id named
  split
  swap
  · rename_i refused
    exact .turnedAway (status_json refused)
  rename_i completion read
  dsimp only
  split
  · exact .turnedAway (by simp [Response.refusal])
  rename_i positive
  split
  · exact .turnedAway (by simp [storeRefusal, Response.refusal])
  · exact .turnedAway (by simp [jobMissing, Response.refusal])
  rename_i job found
  split
  · exact .turnedAway (by rw [status_moveRefusal]; exact statusCode_ne _)
  rename_i uninvoiced
  have due : Due g.book r place id completion job :=
    ⟨named, read, Int.not_le.mp positive, found, uninvoiced⟩
  cases provided : g.invoices with
  | none =>
    cases external : completion.invoiceId.filter fun id => !Text.isBlankText id with
    | none =>
      simp only [openInvoice, provided, external]
      exact .turnedAway (status_paymentRefusal _)
    | some invoiceId =>
      simp only [openInvoice, provided, external]
      obtain ⟨attaches, spared⟩ :=
        attaches_change g id completion.amountSats ⟨invoiceId, none⟩ now
      rw [spared, provided]
      exact .given due rfl (Option.filter_eq_some_iff.mp external).1 attaches
  | some provider =>
    cases answer : (provider.createInvoice (invoiceRequest job completion.amountSats)).1 with
    | error error =>
      simp only [openInvoice, provided, answer]
      exact .unopened due rfl answer (status_paymentRefusal error)
    | ok invoice =>
      simp only [openInvoice, provided, answer]
      generalize ordered : some (provider.createInvoice _).2 = invoices
      obtain ⟨attaches, spared⟩ :=
        attaches_change { g with invoices } id completion.amountSats invoice now
      rw [spared]
      subst ordered
      exact .opened due rfl answer attaches

/-! ## The layers of a request -/

private theorem status_rejectionAnswer (rejection : AuthRejection) :
    (rejectionAnswer rejection).status ≠ 200 := by
  cases rejection <;> simp [rejectionAnswer, Response.refusal, AuthRejection.statusCode]

private theorem status_limitRate {response : Response}
    (stops : (g.limitRate r tick).1 = some response) : response.status ≠ 200 := by
  unfold limitRate at stops
  split at stops
  · dsimp only at stops
    split at stops <;> cases stops
    exact status_rejectionAnswer _
  · cases stops

private theorem status_guardAgent {response : Response}
    (stops : (g.guardAgent r now tick).1 = some response) : response.status ≠ 200 := by
  unfold guardAgent at stops
  split at stops
  · cases stops
    simp [Response.refusal]
  · split at stops <;> cases stops
    exact status_rejectionAnswer _

private theorem status_guardOperator {response : Response}
    (stops : g.guardOperator r = some response) : response.status ≠ 200 := by
  unfold guardOperator at stops
  split at stops
  · cases stops
    simp [Response.refusal]
  · split at stops <;> cases stops
    simp [Response.refusal]

/-- A request is turned away, or it is served, and before that no more than the agents that are
known has changed. -/
inductive Reaches (g : Gateway) (r : Request) (now : Instant) : Nat → Gateway → Prop
  | turnedAway {status : Nat} (refused : status ≠ 200) (agents : Authenticator) :
      Reaches g r now status { g with agents }
  | served {route : Route} (found : Route.ofPath? r.path = some route)
      (answers : route.answers r.method) (agents : Authenticator) :
      Reaches g r now (serve { g with agents } route r now).1.status
        (serve { g with agents } route r now).2

private theorem reaches_serve (g : Gateway) {route : Route}
    (found : Route.ofPath? r.path = some route) (agents : Authenticator) :
    Reaches g r now (serve { g with agents } route r now).1.status
      (serve { g with agents } route r now).2 := by
  by_cases answers : route.answers r.method
  · exact .served found answers agents
  · unfold serve
    rw [if_pos (by simpa using answers)]
    exact .turnedAway (by simp [Response.bare]) agents

private theorem reaches_guarded (g : Gateway) {route : Route}
    (found : Route.ofPath? r.path = some route) (agents : Authenticator) :
    Reaches g r now (guarded { g with agents } route r now tick).1.status
      (guarded { g with agents } route r now tick).2 := by
  cases route with
  | health => exact reaches_serve g found agents
  | paymentWebhook => exact reaches_serve g found agents
  | agent place =>
    rcases guardAgent_cases { g with agents } r now tick with
      ⟨response, other, refused, _⟩ | ⟨other, passes, _⟩
    · have status := status_guardAgent (congrArg Prod.fst refused)
      rw [guarded, refused]
      exact .turnedAway status other
    · rw [guarded, passes]
      exact reaches_serve g found other
  | operator place =>
    rw [guarded]
    cases guard : guardOperator { g with agents } r with
    | some response => exact .turnedAway (status_guardOperator guard) agents
    | none => exact reaches_serve g found agents

/-- A request for headers alone gets the status code that one for data gets. -/
theorem handle_answer (g : Gateway) (r : Request) (now : Instant) (tick : Nat) :
    (g.handle r now tick).1.status = (g.answer r now tick).1.status ∧
      (g.handle r now tick).2 = (g.answer r now tick).2 := by
  unfold handle
  generalize g.answer r now tick = answered
  refine ⟨?_, rfl⟩
  dsimp only
  split <;> rfl

theorem reaches_handle (g : Gateway) (r : Request) (now : Instant) (tick : Nat) :
    Reaches g r now (g.handle r now tick).1.status (g.handle r now tick).2 := by
  rw [(handle_answer g r now tick).1, (handle_answer g r now tick).2]
  obtain ⟨limiter, counted, _⟩ := limitRate_cases g r tick
  cases limited : g.limitRate r tick with
  | mk stop other =>
    rw [limited] at counted
    obtain rfl : other = g.withLimiter limiter := counted
    rw [answer, limited]
    cases stop with
    | some response =>
      exact .turnedAway (status_limitRate (congrArg Prod.fst limited)) _
    | none =>
      dsimp only
      split
      · exact .turnedAway (by simp [Response.bare]) _
      · split
        · exact .turnedAway (by simp [Response.bare]) _
        · exact reaches_guarded g ‹_› _

/-! ## Every request -/

/-- A request orders nothing, or it completes a job. -/
theorem handle_cases (g : Gateway) (r : Request) (now : Instant) (tick : Nat) :
    OrdersNothing g (g.handle r now tick).2 ∨
      ∃ place status, Completes g.book g.invoices r place now status
        (g.handle r now tick).2.book (g.handle r now tick).2.invoices := by
  have reaches := reaches_handle g r now tick
  generalize (g.handle r now tick).1.status = status at reaches
  generalize (g.handle r now tick).2 = after at reaches ⊢
  cases reaches with
  | turnedAway refused agents => exact .inl ⟨rfl, .inl rfl⟩
  | @served route found answers agents =>
    have regardless {after : Gateway} (same : OrdersNothing { g with agents } after) :
        OrdersNothing g after := ⟨same.ordering, same.book⟩
    unfold serve
    rw [if_neg (by simp [answers])]
    cases route with
    | health => exact .inl (regardless (.refl _))
    | paymentWebhook => exact .inl (regardless (ordersNothing_takeEvent ..))
    | operator route => exact .inl (regardless (ordersNothing_serveOperator ..))
    | agent route =>
      cases route with
      | pendingJobs =>
        exact .inl (regardless (ordersNothing_withInput fun _ => ordersNothing_look ..))
      | claim =>
        exact .inl (regardless (ordersNothing_withInput fun ids =>
          ordersNothing_change (.operate (.claim ids now)) trivial (Book.attend_operate rfl) ..))
      | report =>
        exact .inl (regardless (ordersNothing_withInput fun id =>
          ordersNothing_withInput fun report =>
            ordersNothing_change (.operate (.applyReport id report now)) trivial
              (Book.attend_operate rfl) ..))
      | takeOtp job => exact .inl (regardless (ordersNothing_takeCode ..))
      | complete place =>
        exact .inr ⟨place, _, completes_completeJob { g with agents } r place now⟩

end Gateway

end JobRelay
