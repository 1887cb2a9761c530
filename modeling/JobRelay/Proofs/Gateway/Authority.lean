import JobRelay.Gateway.Handle
import JobRelay.Proofs.Access.NonceLog
import JobRelay.Proofs.Session.Basic

/-! # Who may change the book

Every request runs through the same layers: the rate limit, the length that it declares, its route,
the guard of the route and its method. Only behind the guard is there anything that writes the book.
So the book changes only for an agent whose request is admitted and signed, for the operator's
token, and for a payment event that is signed and confirmed; and only the first of these spends a
nonce.
-/

namespace JobRelay.Gateway

variable {g after : Gateway} {r : Request} {now : Instant} {tick : Nat}

/-! ## What serving a request leaves alone -/

/-- All but the book and the provider is as it was. -/
structure KeepsSetup (g after : Gateway) : Prop where
  config : after.config = g.config
  agents : after.agents = g.agents
  operatorToken : after.operatorToken = g.operatorToken
  webhookSecret : after.webhookSecret = g.webhookSecret

private theorem KeepsSetup.refl (g : Gateway) : KeepsSetup g g := ⟨rfl, rfl, rfl, rfl⟩

private theorem KeepsSetup.trans {middle : Gateway} (first : KeepsSetup g middle)
    (second : KeepsSetup middle after) : KeepsSetup g after where
  config := second.config.trans first.config
  agents := second.agents.trans first.agents
  operatorToken := second.operatorToken.trans first.operatorToken
  webhookSecret := second.webhookSecret.trans first.webhookSecret

section Answers

variable {ε α : Type}

private theorem keepsSetup_look (g : Gateway) (result : Except ε α) (refused : ε → Response)
    (answer : α → Response) : KeepsSetup g (g.look result refused answer).2 := by
  unfold look
  split <;> exact .refl g

private theorem keepsSetup_change (g : Gateway) (result : Except ε (α × Book))
    (refused : ε → Response) (answer : α → Response) :
    KeepsSetup g (g.change result refused answer).2 := by
  unfold change
  split
  · exact ⟨rfl, rfl, rfl, rfl⟩
  · exact .refl g

private theorem keepsSetup_withInput {input : Except Response α} {next : α → Response × Gateway}
    (each : ∀ value, KeepsSetup g (next value).2) : KeepsSetup g (g.withInput input next).2 := by
  unfold withInput
  split
  · exact each _
  · exact .refl g

end Answers

private theorem keepsSetup_openInvoice (g : Gateway) (job : Job) (completion : Completion) :
    KeepsSetup g (g.openInvoice job completion).2 := by
  unfold openInvoice
  split
  · exact ⟨rfl, rfl, rfl, rfl⟩
  · split <;> exact .refl g

private theorem keepsSetup_completeJob (g : Gateway) (r : Request) (job : String) (now : Instant) :
    KeepsSetup g (g.completeJob r job now).2 := by
  refine keepsSetup_withInput fun id => keepsSetup_withInput fun completion => ?_
  split
  · exact .refl g
  · split
    · exact .refl g
    · exact .refl g
    · rename_i job _
      split
      · exact .refl g
      · have opened := keepsSetup_openInvoice g job completion
        split
        · rename_i error other same
          rw [same] at opened
          exact opened
        · rename_i invoice other same
          rw [same] at opened
          exact opened.trans (keepsSetup_change ..)

private theorem keepsSetup_serveAgent (g : Gateway) (route : AgentRoute) (r : Request)
    (now : Instant) : KeepsSetup g (g.serveAgent route r now).2 := by
  cases route with
  | pendingJobs => exact keepsSetup_withInput fun _ => keepsSetup_look ..
  | claim => exact keepsSetup_withInput fun _ => keepsSetup_change ..
  | report =>
    exact keepsSetup_withInput fun _ => keepsSetup_withInput fun _ => keepsSetup_change ..
  | complete job => exact keepsSetup_completeJob g r job now
  | takeOtp =>
    refine keepsSetup_withInput fun _ => ?_
    split
    · exact .refl g
    · exact .refl g
    · exact keepsSetup_change ..

private theorem keepsSetup_serveOperator (g : Gateway) (route : OperatorRoute) (r : Request)
    (now : Instant) : KeepsSetup g (g.serveOperator route r now).2 := by
  cases route with
  | stuckJobs | alerts => exact keepsSetup_look ..
  | settle | renege | acknowledge => exact keepsSetup_withInput fun _ => keepsSetup_change ..
  | history => exact keepsSetup_withInput fun _ => keepsSetup_look ..
  | runAlerts => exact ⟨rfl, rfl, rfl, rfl⟩
  | forceStatus =>
    refine keepsSetup_withInput fun _ => keepsSetup_withInput fun _ => ?_
    split
    · exact .refl g
    · exact keepsSetup_change ..
  | submitOtp =>
    refine keepsSetup_withInput fun _ => keepsSetup_withInput fun _ => ?_
    split
    · exact .refl g
    · exact keepsSetup_change ..

/-- Once the provider has been asked, either nothing more is done or it has confirmed the payment. -/
private theorem confirmInvoice_cases (g : Gateway) (invoiceId : String) (now : Instant) :
    ∃ invoices, (g.confirmInvoice invoiceId now).2 = { g with invoices } ∨
      (∀ provider ∈ g.invoices, (provider.isSettled invoiceId).1 = .ok true) ∧
        (g.confirmInvoice invoiceId now).2 = ({ g with invoices }.settleInvoice invoiceId now).2 := by
  unfold confirmInvoice
  split
  · rename_i absent
    exact ⟨g.invoices, .inr ⟨by simp [absent], rfl⟩⟩
  · rename_i provider present
    refine ⟨some (provider.isSettled invoiceId).2, ?_⟩
    dsimp only
    split
    · rename_i confirmed
      exact .inr ⟨by simpa [present] using confirmed, rfl⟩
    · exact .inl rfl
    · exact .inl rfl

/-- An event that is not turned away at once is signed and names an invoice that has been paid. -/
theorem takeEvent_cases (g : Gateway) (r : Request) (now : Instant) :
    (g.takeEvent r now).2 = g ∨
      ∃ event invoiceId,
        webhookSignatureHolds (g.webhookSecret.getD "") r.body
          ((r.header? eventSignatureHeader).getD "") ∧
        Shape.readJson PaymentEvent.shape r.body = .ok event ∧ event.kind ∈ settledEvents ∧
        event.invoiceId = some invoiceId ∧ invoiceId ≠ "" ∧
        (g.takeEvent r now).2 = (g.confirmInvoice invoiceId now).2 := by
  unfold takeEvent
  split
  · exact .inl rfl
  split
  · exact .inl rfl
  rename_i signed
  split
  · exact .inl rfl
  rename_i event read
  split
  · exact .inl rfl
  rename_i settles
  split
  · exact .inl rfl
  rename_i invoiceId named
  obtain ⟨names, nonempty⟩ := Option.filter_eq_some_iff.mp named
  exact .inr ⟨event, invoiceId, by simpa using signed, read, by simpa using settles, names,
    by simpa using nonempty, rfl⟩

private theorem keepsSetup_takeEvent (g : Gateway) (r : Request) (now : Instant) :
    KeepsSetup g (g.takeEvent r now).2 := by
  rcases takeEvent_cases g r now with same | ⟨_, invoiceId, _, _, _, _, _, same⟩
  · rw [same]
    exact .refl g
  · obtain ⟨invoices, asked⟩ := confirmInvoice_cases g invoiceId now
    have keeps : KeepsSetup g { g with invoices } := ⟨rfl, rfl, rfl, rfl⟩
    rw [same]
    rcases asked with stopped | ⟨_, settled⟩
    · rw [stopped]
      exact keeps
    · rw [settled]
      exact keeps.trans (keepsSetup_change ..)

theorem keepsSetup_serve (g : Gateway) (route : Route) (r : Request) (now : Instant) :
    KeepsSetup g (g.serve route r now).2 := by
  unfold serve
  split
  · exact .refl g
  · split
    · exact .refl g
    · exact keepsSetup_takeEvent ..
    · exact keepsSetup_serveAgent ..
    · exact keepsSetup_serveOperator ..

/-! ## What a route asks of a request -/

/-- A gateway with the token and the secret of its settings, trimmed and not blank. -/
structure Wired (g : Gateway) : Prop where
  operatorToken : g.operatorToken = g.config.gateway.operatorToken.bind Text.nonBlank?
  webhookSecret : g.webhookSecret = g.config.payments.webhookSecret.bind Text.nonBlank?

private theorem wired_create (config : Config) (book : Book) : (create config book).Wired :=
  ⟨rfl, rfl⟩

private theorem Wired.of_keepsSetup (wired : g.Wired) (keeps : KeepsSetup g after) :
    after.Wired where
  operatorToken := by rw [keeps.operatorToken, keeps.config, wired.operatorToken]
  webhookSecret := by rw [keeps.webhookSecret, keeps.config, wired.webhookSecret]

/-- The caller is within the rate limit, and the request is signed and brings a new nonce. -/
def AdmitsAgent (g : Gateway) (r : Request) (now : Instant) (tick : Nat) : Prop :=
  ∃ agents, g.agents.tryAdmit (callerKey g.config.gateway.trustForwardedFor r) tick =
      (.ok (), agents) ∧
    (agents.authenticate (agentRequest r) now.seconds tick).1 = .ok ()

/-- The request shows the operator's token as it is configured, but for blanks around it. -/
def AdmitsOperator (g : Gateway) (r : Request) : Prop :=
  ∃ configured, g.config.gateway.operatorToken = some configured ∧ Text.trim configured ≠ "" ∧
    r.header? "Authorization" = some ("Bearer " ++ Text.trim configured)

/-- The request is a signed event about an invoice that has been paid, which the provider, if there
is one, confirms. -/
structure ConfirmsPayment (g : Gateway) (r : Request) (configured : String) (event : PaymentEvent)
    (invoiceId : String) : Prop where
  secret : g.config.payments.webhookSecret = some configured
  nonblank : Text.trim configured ≠ ""
  signed : webhookSignatureHolds (Text.trim configured) r.body
    ((r.header? eventSignatureHeader).getD "")
  read : Shape.readJson PaymentEvent.shape r.body = .ok event
  settles : event.kind ∈ settledEvents
  names : event.invoiceId = some invoiceId
  nonempty : invoiceId ≠ ""
  confirmed : ∀ provider ∈ g.invoices, (provider.isSettled invoiceId).1 = .ok true

/-- What a route asks of a request that is to change the book. -/
def Admits (g : Gateway) (route : Route) (r : Request) (now : Instant) (tick : Nat) : Prop :=
  match route with
  | .health => False
  | .agent _ => g.AdmitsAgent r now tick
  | .operator _ => g.AdmitsOperator r
  | .paymentWebhook => ∃ configured event invoiceId, g.ConfirmsPayment r configured event invoiceId

/-! ## Guards -/

/-- A path of agents is counted by the rate limit. -/
private theorem isAgentPath_of_agent {path : String} {place : AgentRoute}
    (found : Route.ofPath? path = some (.agent place)) : isAgentPath path := by
  obtain ⟨rest, segments, _⟩ := Route.segments_of_agent found
  have parts := congrArg (List.map String.toList) segments
  have inverse : String.toList ∘ String.ofList = id := by
    funext chars
    exact String.toList_ofList
  rw [List.map_map, inverse, List.map_id] at parts
  have joined : List.intercalate ['/'] (path.toList.splitOn '/') = path.toList :=
    List.intercalate_splitOn '/'
  have front : path.toList =
      "/agent/".toList ++ List.intercalate ['/'] ("jobs".toList :: rest.map String.toList) := by
    rw [← joined, parts]
    simp [List.intercalate]
  rw [isAgentPath, front, Text.dropPrefix?_append]
  rfl

private theorem admitsOperator_of_guardOperator (wired : g.Wired)
    (passes : g.guardOperator r = none) : g.AdmitsOperator r := by
  unfold guardOperator at passes
  split at passes
  · cases passes
  · rename_i expected token
    split at passes
    · rename_i shown
      rw [wired.operatorToken, Option.bind_eq_some_iff] at token
      obtain ⟨configured, given, trimmed⟩ := token
      obtain ⟨nonblank, rfl⟩ := Text.nonBlank?_eq_some_iff.mp trimmed
      refine ⟨configured, given, nonblank, ?_⟩
      simp only [bearerToken?, Option.bind_eq_bind, Option.bind_eq_some_iff] at shown
      obtain ⟨raw, header, token, behind, shown⟩ := shown
      split at shown
      · cases shown
      · have chars := Text.eq_append_of_dropPrefix? behind
        have same := congrArg String.ofList chars
        rw [String.ofList_toList, String.ofList_append, Option.some.inj shown] at same
        rw [header, same]
        rfl
    · cases passes

/-- What is signed for a gateway is signed under the secret of its settings. -/
private theorem Wired.secret_of_signed (wired : g.Wired) {body : List UInt8} {header : String}
    (signed : webhookSignatureHolds (g.webhookSecret.getD "") body header) :
    ∃ configured, g.config.payments.webhookSecret = some configured ∧ Text.trim configured ≠ "" ∧
      webhookSignatureHolds (Text.trim configured) body header := by
  cases secret : g.webhookSecret with
  | none =>
    rw [secret] at signed
    cases signed
  | some trimmed =>
    rw [secret, Option.getD_some] at signed
    rw [wired.webhookSecret, Option.bind_eq_some_iff] at secret
    obtain ⟨configured, given, trims⟩ := secret
    obtain ⟨nonblank, rfl⟩ := Text.nonBlank?_eq_some_iff.mp trims
    exact ⟨configured, given, nonblank, signed⟩

/-- An event that changes the book is signed, settles an invoice and is confirmed. -/
theorem confirmsPayment_of_takeEvent (wired : g.Wired)
    (changed : (g.takeEvent r now).2.book ≠ g.book) :
    ∃ configured event invoiceId, g.ConfirmsPayment r configured event invoiceId := by
  rcases takeEvent_cases g r now with
    same | ⟨event, invoiceId, signed, read, settles, names, nonempty, same⟩
  · exact (changed (by rw [same])).elim
  · obtain ⟨invoices, stopped | ⟨confirmed, _⟩⟩ := confirmInvoice_cases g invoiceId now
    · exact (changed (by rw [same, stopped])).elim
    · obtain ⟨configured, secret, nonblank, signed⟩ := wired.secret_of_signed signed
      exact ⟨configured, event, invoiceId, secret, nonblank, signed, read, settles, names, nonempty,
        confirmed⟩

/-! ## The layers of a request -/

/-- Two memories in which the same nonces are alive from a tick on. -/
def SameNonces (tick : Nat) (nonces other : NonceMemory) : Prop :=
  ∀ later, tick ≤ later → (other.evict later).seen = (nonces.evict later).seen

private theorem SameNonces.refl (tick : Nat) (nonces : NonceMemory) :
    SameNonces tick nonces nonces :=
  fun _ _ => rfl

/-- The gateway with other requests counted. -/
def withLimiter (g : Gateway) (limiter : RateLimiter) : Gateway :=
  { g with agents := { g.agents with limiter } }

/-- Counting a request touches the rate limit only; one below `/agent/` that goes on is within it. -/
theorem limitRate_cases (g : Gateway) (r : Request) (tick : Nat) :
    ∃ limiter, (g.limitRate r tick).2 = g.withLimiter limiter ∧
      ((g.limitRate r tick).1 = none → isAgentPath r.path →
        g.agents.tryAdmit (callerKey g.config.gateway.trustForwardedFor r) tick =
          (.ok (), (g.withLimiter limiter).agents)) := by
  have counts (caller : String) : (g.agents.tryAdmit caller tick).2 =
      { g.agents with limiter := (g.agents.tryAdmit caller tick).2.limiter } := rfl
  have counted := counts (callerKey g.config.gateway.trustForwardedFor r)
  unfold limitRate
  split
  · dsimp only
    split
    · rename_i agents admitted
      rw [admitted] at counted
      exact ⟨agents.limiter, congrArg (fun agents => { g with agents }) counted,
        fun _ _ => admitted.trans (congrArg (Prod.mk _) counted)⟩
    · rename_i rejection agents refused
      rw [refused] at counted
      exact ⟨agents.limiter, congrArg (fun agents => { g with agents }) counted, nofun⟩
  · rename_i elsewhere
    exact ⟨g.agents.limiter, rfl, fun _ below => (elsewhere below).elim⟩

/-- Checking the signature of a request spends its nonce, or leaves all nonces that are alive. -/
theorem guardAgent_cases (g : Gateway) (r : Request) (now : Instant) (tick : Nat) :
    (∃ response agents, g.guardAgent r now tick = (some response, { g with agents }) ∧
      SameNonces tick g.agents.nonces agents.nonces) ∨
    ∃ agents, g.guardAgent r now tick = (none, { g with agents }) ∧
      (g.agents.authenticate (agentRequest r) now.seconds tick).1 = .ok () := by
  unfold guardAgent
  split
  · exact .inl ⟨_, g.agents, rfl, .refl _ _⟩
  · have evicted : SameNonces tick g.agents.nonces (g.agents.nonces.evict tick) :=
      fun later after => Authenticator.filter_alive _ _ after
    rcases g.agents.authenticate_cases (agentRequest r) now.seconds tick with
      ⟨_, _, refused⟩ | ⟨_, _, ⟨_, replayed⟩ | ⟨_, ⟨_, full⟩ | ⟨_, fresh⟩⟩⟩
    · rw [refused]
      exact .inl ⟨_, _, rfl, .refl _ _⟩
    · rw [replayed]
      exact .inl ⟨_, _, rfl, evicted⟩
    · rw [full]
      exact .inl ⟨_, _, rfl, evicted⟩
    · rw [fresh]
      exact .inr ⟨_, rfl, rfl⟩

/-- What a request may leave behind: the settings with their secrets; the book, changed only through
a route that answers the method and admits the request; and the nonces that are alive, of which
only an agent's request that is admitted spends one. -/
structure Authorized (g : Gateway) (r : Request) (now : Instant) (tick : Nat) (after : Gateway) :
    Prop where
  wired : after.Wired
  book : after.book = g.book ∨
    ∃ route, Route.ofPath? r.path = some route ∧ route.answers r.method ∧ g.Admits route r now tick
  nonces : SameNonces tick g.agents.nonces after.agents.nonces ∨
    ∃ place, Route.ofPath? r.path = some (.agent place) ∧ g.AdmitsAgent r now tick

/-- A request that its guard has let in is served if its route answers the method. -/
theorem serve_book (g : Gateway) (route : Route) (r : Request) (now : Instant) :
    (g.serve route r now).2.book = g.book ∨ route.answers r.method := by
  unfold serve
  split
  · exact .inl rfl
  · rename_i answers
    exact .inr (by simpa using answers)

private theorem serve_health (g : Gateway) (r : Request) (now : Instant) :
    (g.serve .health r now).2 = g := by
  unfold serve
  split <;> rfl

private theorem serve_paymentWebhook (g : Gateway) (r : Request) (now : Instant) :
    (g.serve .paymentWebhook r now).2 = g ∨
      (g.serve .paymentWebhook r now).2 = (g.takeEvent r now).2 := by
  unfold serve
  split
  · exact .inl rfl
  · exact .inr rfl

private theorem guarded_operator_cases (g : Gateway) (place : OperatorRoute) (r : Request)
    (now : Instant) (tick : Nat) :
    (g.guarded (.operator place) r now tick).2 = g ∨ g.guardOperator r = none ∧
      g.guarded (.operator place) r now tick = g.serve (.operator place) r now := by
  rw [guarded]
  split
  · exact .inl rfl
  · exact .inr ⟨‹_›, rfl⟩

/-- A gateway that has counted a request lets it through the guard of its route. -/
theorem guarded_authorized (wired : g.Wired) {route : Route}
    (found : Route.ofPath? r.path = some route) {limiter : RateLimiter}
    (admitted : isAgentPath r.path →
      g.agents.tryAdmit (callerKey g.config.gateway.trustForwardedFor r) tick =
        (.ok (), (g.withLimiter limiter).agents)) :
    Authorized g r now tick ((g.withLimiter limiter).guarded route r now tick).2 := by
  have ready : (g.withLimiter limiter).Wired := ⟨wired.operatorToken, wired.webhookSecret⟩
  have served := keepsSetup_serve (g.withLimiter limiter) route r now
  have spared : SameNonces tick g.agents.nonces
      ((g.withLimiter limiter).serve route r now).2.agents.nonces := by
    rw [served.agents]
    exact .refl _ _
  have book := serve_book (g.withLimiter limiter) route r now
  cases route with
  | health =>
    rw [guarded, serve_health]
    exact ⟨ready, .inl rfl, .inl (.refl _ _)⟩
  | paymentWebhook =>
    refine ⟨ready.of_keepsSetup served, ?_, .inl spared⟩
    by_cases changed : ((g.withLimiter limiter).serve .paymentWebhook r now).2.book = g.book
    · exact .inl changed
    · refine .inr ⟨.paymentWebhook, found, book.resolve_left changed, ?_⟩
      rcases serve_paymentWebhook (g.withLimiter limiter) r now with same | taken
      · exact (changed (by rw [same]; rfl)).elim
      · rw [taken] at changed
        obtain ⟨configured, event, invoiceId, confirms⟩ := confirmsPayment_of_takeEvent ready changed
        exact ⟨configured, event, invoiceId, confirms.secret, confirms.nonblank, confirms.signed,
          confirms.read, confirms.settles, confirms.names, confirms.nonempty, confirms.confirmed⟩
  | operator place =>
    rcases guarded_operator_cases (g.withLimiter limiter) place r now tick with
      same | ⟨passes, same⟩
    · rw [same]
      exact ⟨ready, .inl rfl, .inl (.refl _ _)⟩
    · have admits := admitsOperator_of_guardOperator wired (show g.guardOperator r = none from passes)
      rw [same]
      exact ⟨ready.of_keepsSetup served,
        book.imp_right fun answers => ⟨.operator place, found, answers, admits⟩, .inl spared⟩
  | agent place =>
    rcases guardAgent_cases (g.withLimiter limiter) r now tick with
      ⟨response, agents, refused, same⟩ | ⟨agents, passes, accepted⟩
    · rw [guarded, refused]
      exact ⟨⟨ready.operatorToken, ready.webhookSecret⟩, .inl rfl, .inl same⟩
    · have admits : g.AdmitsAgent r now tick :=
        ⟨_, admitted (isAgentPath_of_agent found), accepted⟩
      rw [guarded, passes]
      have spent : Wired { g.withLimiter limiter with agents } :=
        ⟨ready.operatorToken, ready.webhookSecret⟩
      refine ⟨spent.of_keepsSetup (keepsSetup_serve ..), ?_, .inr ⟨place, found, admits⟩⟩
      exact (serve_book { g.withLimiter limiter with agents } (.agent place) r now).imp_right
        fun answers => ⟨.agent place, found, answers, admits⟩

/-- Whatever a request is, the book changes only through a route whose guard it passes, and only an
agent's request that is admitted spends a nonce. -/
theorem handle_authorized (wired : g.Wired) (r : Request) (now : Instant) (tick : Nat) :
    Authorized g r now tick (g.handle r now tick).2 := by
  obtain ⟨limiter, counted, admitted⟩ := limitRate_cases g r tick
  have stopped : Authorized g r now tick (g.withLimiter limiter) :=
    ⟨⟨wired.operatorToken, wired.webhookSecret⟩, .inl rfl, .inl (.refl _ _)⟩
  cases limited : g.limitRate r tick with
  | mk stop other =>
    rw [limited] at counted admitted
    obtain rfl : other = g.withLimiter limiter := counted
    rw [handle, answer, limited]
    cases stop with
    | some response => exact stopped
    | none =>
      dsimp only
      split
      · exact stopped
      · split
        · exact stopped
        · exact guarded_authorized wired ‹_› (admitted rfl)

/-- A gateway in the middle of a session, with a token that has blanks around it. -/
def tokenGateway : Gateway :=
  create { gateway := { operatorToken := some " t " } }
    (Book.empty.session ((writeOffs none).take 7)).2

/-- The operator writes a job off. -/
def renegeRequest : Request :=
  { method := "POST"
    target := "/admin/jobs/j/renege"
    headers := [("authorization", "Bearer t")] }

theorem authorized_renegeRequest :
    tokenGateway.Wired ∧
      (tokenGateway.handle renegeRequest ⟨4, 0⟩ 0).2.book ≠ tokenGateway.book ∧
      Authorized tokenGateway renegeRequest ⟨4, 0⟩ 0
        (tokenGateway.handle renegeRequest ⟨4, 0⟩ 0).2 := by
  have wired : tokenGateway.Wired := wired_create _ _
  exact ⟨wired, by decide +kernel, handle_authorized wired _ _ _⟩

end JobRelay.Gateway
