import JobRelay.Gateway.Basic
import JobRelay.Gateway.Route
import JobRelay.Proofs.Access.NonceLog
import Mathlib.Data.Set.Function

/-! # What a signature vouches for

A signature covers the time, the nonce, the method and the path run together, and the digest of the
body behind them. Who presents the signature of another request has the same body and the same run
of text, split perhaps at other places. A clock that is far from its origin fixes where the time
ends. Where the nonce and the method end is fixed by their lengths, and for the agents' routes of
the gateway by the targets themselves: none of them ends in another one.
-/

namespace JobRelay

/-- A method as it is signed. -/
def capitals (method : String) : String :=
  String.ofList (method.toList.map Char.toUpper)

/-- A request that an agent signs. -/
structure AgentOrder where
  method : String
  path : String
  body : List UInt8
  timestamp : Int
  nonce : String

namespace AgentOrder

/-- The headers that an agent sends with a request. -/
def headers (secret : String) (order : AgentOrder) : SignedHeaders :=
  signAt secret order.method order.path order.body order.timestamp order.nonce

/-- What is signed before the body. -/
def text (order : AgentOrder) : String :=
  toString order.timestamp ++ order.nonce ++ capitals order.method ++ order.path

/-- What is signed. -/
def message (order : AgentOrder) : List UInt8 :=
  signedMessage (toString order.timestamp) order.nonce order.method order.path order.body

end AgentOrder

namespace AgentRequest

/-- What a request has to be signed for, before the body. -/
def text (request : AgentRequest) : String :=
  request.timestamp.getD "" ++ request.nonce.getD "" ++ capitals request.method ++ request.path

/-- What a request has to be signed for. -/
def message (request : AgentRequest) : List UInt8 :=
  signedMessage (request.timestamp.getD "") (request.nonce.getD "") request.method request.path
    request.body

end AgentRequest

/-- No two of the messages have one code under a key, and no two of the bodies have one digest. -/
structure CollisionFree (key : List UInt8) (messages bodies : Set (List UInt8)) : Prop where
  codes : messages.InjOn (Hmac.code key)
  digests : bodies.InjOn Sha256.digest

private theorem AgentOrder.message_eq (order : AgentOrder) :
    order.message = utf8 (order.text ++ bodyDigest order.body) := by
  simp only [text, utf8_append]
  rfl

private theorem AgentRequest.message_eq (request : AgentRequest) :
    request.message = utf8 (request.text ++ bodyDigest request.body) := by
  simp only [text, utf8_append]
  rfl

private theorem AgentRequest.message_eq_of_text {request : AgentRequest} {order : AgentOrder}
    (text : request.text = order.text) (body : request.body = order.body) :
    request.message = order.message := by
  rw [request.message_eq, order.message_eq, text, body]

/-- What is signed tells the text before the body and the digest of the body. -/
private theorem text_eq_of_message {text other : String} {body content : List UInt8}
    (same : utf8 (text ++ bodyDigest body) = utf8 (other ++ bodyDigest content)) :
    text = other ∧ Sha256.digest body = Sha256.digest content := by
  have chars := congrArg String.toList (utf8_inj.mp same)
  rw [String.toList_append, String.toList_append] at chars
  have width (bytes : List UInt8) : (bodyDigest bytes).toList.length = 64 := by
    simp [bodyDigest, Sha256.hex, Text.Hex.encode]
  obtain ⟨front, digest⟩ := List.append_inj' chars (by rw [width, width])
  exact ⟨String.toList_inj.mp front, Text.Hex.encode_inj.mp (String.toList_inj.mp digest)⟩

/-- A request that arrives as it was signed; the case of the method's letters is not signed. -/
structure AgentOrder.Arrives (order : AgentOrder) (request : AgentRequest) : Prop where
  timestamp : request.timestamp = some (toString order.timestamp)
  nonce : request.nonce = some order.nonce
  method : capitals request.method = capitals order.method
  path : request.path = order.path
  body : request.body = order.body

/-- Whether a method and a path are those of a route of agents. -/
def AtAgents (method path : String) : Prop :=
  ∃ route, Route.ofPath? path = some (.agent route) ∧
    (Route.agent route).answers (capitals method)

/-! ## Where the parts end -/

/-- While the clock is far from its origin, the time is told from the text that it begins. -/
private theorem timestamp_eq {timestamp rest other : String} {sentAt signedAt now : Int}
    {windowSecs : Nat} (same : timestamp ++ rest = toString signedAt ++ other)
    (read : Text.int64? timestamp = some sentAt) (recent : (now - sentAt).natAbs ≤ windowSecs)
    (far : 2 * windowSecs < now) (near : 2 * (now - signedAt).natAbs < now) :
    timestamp = toString signedAt := by
  obtain ⟨n, rfl⟩ : ∃ n : Nat, signedAt = n := Int.eq_ofNat_of_zero_le (by omega)
  have written : (toString (n : Int)).toList = Text.digits n := String.toList_ofList
  have chars := congrArg String.toList same
  rw [String.toList_append, String.toList_append, written] at chars
  obtain ⟨integer, _⟩ := Option.filter_eq_some_iff.mp read
  rcases Text.integer?_apart chars integer with equal | less | more
  · exact String.toList_inj.mp (equal.trans written.symm)
  · omega
  · omega

private theorem Route.answers_eq {route : AgentRoute} {method : String}
    (answers : (Route.agent route).answers method) :
    method = "GET" ∨ method = "HEAD" ∨ method = "POST" := by
  cases route <;> simp [Route.answers, Route.method, AgentRoute.method] at answers <;> tauto

/-- No method that agents use ends in another one. -/
private theorem Route.method_eq {route place : AgentRoute} {method verb : String}
    (answers : (Route.agent route).answers method) (other : (Route.agent place).answers verb)
    {front back : String} (same : front ++ method = back ++ verb) : method = verb := by
  have backwards := congrArg (fun text => text.toList.reverse) same
  rcases answers_eq answers with rfl | rfl | rfl <;> rcases answers_eq other with rfl | rfl | rfl <;>
    first | rfl | simp at backwards

/-- The target of an agents' route is told from the text that it ends. -/
private theorem AtAgents.target_eq {nonce other method verb path place : String}
    (here : AtAgents method path) (there : AtAgents verb place)
    (same : nonce ++ capitals method ++ path = other ++ capitals verb ++ place) :
    nonce = other ∧ capitals method = capitals verb ∧ path = place := by
  obtain ⟨route, found, answers⟩ := here
  obtain ⟨_, again, verbs⟩ := there
  have chars := congrArg String.toList same
  rw [String.toList_append, String.toList_append (s := other ++ capitals verb)] at chars
  obtain ⟨front, tail⟩ : (nonce ++ capitals method).toList = (other ++ capitals verb).toList ∧
      path.toList = place.toList := by
    rcases List.append_eq_append_iff.mp chars with ⟨more, front, ends⟩ | ⟨more, front, ends⟩
    · obtain rfl := Route.eq_nil_of_agent found again ends
      exact ⟨by rw [front, List.append_nil], ends⟩
    · obtain rfl := Route.eq_nil_of_agent again found ends
      exact ⟨by rw [front, List.append_nil], ends.symm⟩
  have front := String.toList_inj.mp front
  have same := Route.method_eq answers verbs front
  rw [same] at front
  exact ⟨(String.append_left_inj _).mp front, same, String.toList_inj.mp tail⟩

/-! ## What an accepted request shares with the signed one -/

/-- What the signature of an order vouches for in a request that is accepted at a time: the text
and the body; the time, unless the clock or the order is dated near the origin; and all parts, if
the nonce and the method have their lengths or both requests are for routes of agents. -/
structure AgentOrder.Vouches (order : AgentOrder) (request : AgentRequest) (windowSecs : Nat)
    (now : Int) : Prop where
  text : request.text = order.text
  body : request.body = order.body
  timestamp : 2 * windowSecs < now → 2 * (now - order.timestamp).natAbs < now →
    request.timestamp = some (toString order.timestamp)
  lengths : request.timestamp = some (toString order.timestamp) →
    request.nonce.map String.length = some order.nonce.length →
    request.method.length = order.method.length → order.Arrives request
  routes : request.timestamp = some (toString order.timestamp) →
    AtAgents request.method request.path → AtAgents order.method order.path →
    order.Arrives request

private theorem Authenticator.checked_of_accepted {a : Authenticator} {request : AgentRequest}
    {now : Int} {tick : Nat} (accepted : (a.authenticate request now tick).1 = .ok ()) :
    ∃ nonce, a.checkSignature request now = .ok nonce := by
  cases checked : a.checkSignature request now with
  | error =>
    rw [authenticate, checked] at accepted
    cases accepted
  | ok nonce => exact ⟨nonce, rfl⟩

/-- An accepted request that bears the signature of an order is signed for what the order is. -/
theorem CollisionFree.text_eq {key : List UInt8} {order : AgentOrder} {request : AgentRequest}
    {messages bodies : Set (List UInt8)} (sound : CollisionFree key messages bodies)
    (message : request.message ∈ messages) (signed : order.message ∈ messages)
    (body : request.body ∈ bodies) (content : order.body ∈ bodies)
    (same : Hmac.hex key request.message = Hmac.hex key order.message) :
    request.text = order.text ∧ request.body = order.body := by
  have whole := sound.codes message signed (Text.Hex.encode_inj.mp same)
  rw [request.message_eq, order.message_eq] at whole
  obtain ⟨text, digest⟩ := text_eq_of_message whole
  exact ⟨text, sound.digests body content digest⟩

private theorem AgentOrder.Arrives.of_lengths {order : AgentOrder} {request : AgentRequest}
    {nonce : String} (body : request.body = order.body)
    (timestamp : request.timestamp = some (toString order.timestamp))
    (named : request.nonce = some nonce)
    (rest : nonce ++ capitals request.method ++ request.path =
      order.nonce ++ capitals order.method ++ order.path)
    (length : nonce.length = order.nonce.length)
    (width : request.method.length = order.method.length) : order.Arrives request := by
  have chars := congrArg String.toList rest
  rw [String.toList_append, String.toList_append, String.toList_append, String.toList_append,
    List.append_assoc, List.append_assoc] at chars
  rw [← String.length_toList, ← String.length_toList] at length width
  obtain ⟨front, target⟩ := List.append_inj chars length
  obtain ⟨method, path⟩ := List.append_inj target (by simpa [capitals] using width)
  obtain rfl := String.toList_inj.mp front
  exact ⟨timestamp, named, String.toList_inj.mp method, String.toList_inj.mp path, body⟩

/-- Of the requests that agents have signed, an accepted request that bears the signature of one
shares with it what the signature vouches for. -/
theorem Authenticator.vouches_of_accepted {a : Authenticator} {secret : String}
    {orders : Set AgentOrder} {request : AgentRequest} {now : Int} {tick : Nat}
    (given : a.secret = some (utf8 secret))
    (sound : CollisionFree (utf8 secret) (insert request.message (AgentOrder.message '' orders))
      (insert request.body (AgentOrder.body '' orders)))
    (accepted : (a.authenticate request now tick).1 = .ok ()) {order : AgentOrder}
    (signed : order ∈ orders) (bears : request.signature = some (order.headers secret).signature) :
    order.Vouches request a.windowSecs now := by
  obtain ⟨nonce, checked⟩ := checked_of_accepted accepted
  obtain ⟨_, timestamp, sentAt, same, dated, read, recent, named, _, signature⟩ :=
    checkSignature_eq_ok_iff.mp checked
  cases given.symm.trans same
  have equal : Hmac.hex (utf8 secret) request.message = Hmac.hex (utf8 secret) order.message := by
    rw [AgentRequest.message, dated, named]
    exact Option.some.inj (signature.symm.trans bears)
  obtain ⟨text, body⟩ := sound.text_eq (.inl rfl) (.inr ⟨order, signed, rfl⟩) (.inl rfl)
    (.inr ⟨order, signed, rfl⟩) equal
  have whole : timestamp ++ (nonce ++ capitals request.method ++ request.path) =
      toString order.timestamp ++ (order.nonce ++ capitals order.method ++ order.path) := by
    rw [AgentRequest.text, AgentOrder.text, dated, named] at text
    simpa only [Option.getD_some, String.append_assoc] using text
  have rest (told : request.timestamp = some (toString order.timestamp)) :
      nonce ++ capitals request.method ++ request.path =
        order.nonce ++ capitals order.method ++ order.path := by
    rw [dated] at told
    cases told
    exact (String.append_right_inj _).mp whole
  refine ⟨text, body, ?_, ?_, ?_⟩
  · intro far near
    rw [dated, timestamp_eq whole read recent far near]
  · intro told length width
    rw [named] at length
    exact .of_lengths body told named (rest told) (Option.some.inj length) width
  · intro told here there
    obtain ⟨rfl, method, path⟩ := here.target_eq there (rest told)
    exact ⟨told, named, method, path, body⟩

/-- Whatever runs together to the text of a signed request, with its body, is signed as well. -/
theorem Authenticator.checkSignature_of_text {a : Authenticator} (order : AgentOrder)
    {request : AgentRequest} {secret timestamp nonce : String} {sentAt now : Int}
    (given : a.secret = some (utf8 secret)) (dated : request.timestamp = some timestamp)
    (read : Text.int64? timestamp = some sentAt) (recent : (now - sentAt).natAbs ≤ a.windowSecs)
    (named : request.nonce = some nonce) (nonempty : nonce.isEmpty = false)
    (text : request.text = order.text) (body : request.body = order.body)
    (bears : request.signature = some (order.headers secret).signature) :
    a.checkSignature request now = .ok nonce := by
  have signed : request.signature = some (Hmac.hex (utf8 secret) request.message) := by
    rw [bears, AgentRequest.message_eq_of_text text body]
    rfl
  rw [AgentRequest.message, dated, named] at signed
  exact checkSignature_eq_ok_iff.mpr
    ⟨utf8 secret, timestamp, sentAt, given, dated, read, recent, named, nonempty, signed⟩

/-! ## Requests at the start of 2026 -/

/-- The request that an agent sends for an order. -/
def AgentOrder.request (secret : String) (order : AgentOrder) : AgentRequest :=
  { method := order.method
    path := order.path
    body := order.body
    timestamp := some (order.headers secret).timestamp
    nonce := some (order.headers secret).nonce
    signature := some (order.headers secret).signature }

def pendingOrder : AgentOrder :=
  { method := "GET"
    path := "/agent/jobs/pending"
    body := []
    timestamp := 1767225600
    nonce := "n-1" }

/-- An authenticator with the default settings and a secret. -/
def pendingDesk : Authenticator :=
  ({ sharedSecret := some "s3cret" } : AgentConfig).authenticator

/-- A request that is signed for what an order is cannot collide with it. -/
private theorem collisionFree_of_message {key : List UInt8} {order : AgentOrder}
    {request : AgentRequest} (message : request.message = order.message)
    (body : request.body = order.body) :
    CollisionFree key (insert request.message (AgentOrder.message '' {order}))
      (insert request.body (AgentOrder.body '' {order})) := by
  rw [Set.image_singleton, Set.image_singleton, message, body, Set.pair_eq_singleton,
    Set.pair_eq_singleton]
  exact ⟨Set.injOn_singleton .., Set.injOn_singleton ..⟩

private theorem authenticate_pendingOrder :
    pendingDesk.authenticate (pendingOrder.request "s3cret") 1767225600 0 =
      (.ok (), { pendingDesk with nonces := { pendingDesk.nonces with seen := [("n-1", 0)] } }) := by
  have checked : pendingDesk.checkSignature (pendingOrder.request "s3cret") 1767225600 = .ok "n-1" :=
    Authenticator.checkSignature_of_text pendingOrder rfl rfl
      (show Text.int64? _ = some 1767225600 by decide) (by decide) rfl (by decide) rfl rfl rfl
  exact Authenticator.authenticate_of_forgotten checked rfl (by decide)

theorem pendingOrder_arrives :
    (pendingDesk.authenticate (pendingOrder.request "s3cret") 1767225600 0).1 = .ok () ∧
      pendingOrder.Arrives (pendingOrder.request "s3cret") := by
  have accepted : (pendingDesk.authenticate (pendingOrder.request "s3cret") 1767225600 0).1 =
      .ok () := by rw [authenticate_pendingOrder]
  have vouches := Authenticator.vouches_of_accepted rfl (collisionFree_of_message rfl rfl) accepted
    (Set.mem_singleton pendingOrder) rfl
  have target : AtAgents "GET" "/agent/jobs/pending" := ⟨.pendingJobs, by decide, by decide⟩
  have told := vouches.timestamp (by decide) (by decide)
  exact ⟨accepted, vouches.routes told target target⟩

/-- The first letter of the method is moved to the nonce. -/
def shiftedRequest : AgentRequest :=
  { pendingOrder.request "s3cret" with method := "ET", nonce := some "n-1G" }

/-- The same order, dated ten times as late and a second. -/
def tenfoldOrder : AgentOrder := { pendingOrder with timestamp := 17672256001 }

/-- The last digit of the time is moved to the nonce. -/
def shortenedRequest : AgentRequest :=
  { tenfoldOrder.request "s3cret" with timestamp := some "1767225600", nonce := some "1n-1" }

/-- A signature lets in requests with another nonce and method, or with another time. -/
theorem signature_shared :
    (CollisionFree (utf8 "s3cret")
        (insert shiftedRequest.message (AgentOrder.message '' {pendingOrder}))
        (insert shiftedRequest.body (AgentOrder.body '' {pendingOrder})) ∧
      shiftedRequest.signature = some (pendingOrder.headers "s3cret").signature ∧
      (pendingDesk.receive [⟨pendingOrder.request "s3cret", 1767225600, 0⟩,
          ⟨shiftedRequest, 1767225600, 0⟩]).1 =
        [⟨pendingOrder.request "s3cret", 1767225600, 0⟩, ⟨shiftedRequest, 1767225600, 0⟩] ∧
      shiftedRequest.nonce ≠ some pendingOrder.nonce ∧
      capitals shiftedRequest.method ≠ capitals pendingOrder.method) ∧
    (CollisionFree (utf8 "s3cret")
        (insert shortenedRequest.message (AgentOrder.message '' {tenfoldOrder}))
        (insert shortenedRequest.body (AgentOrder.body '' {tenfoldOrder})) ∧
      shortenedRequest.signature = some (tenfoldOrder.headers "s3cret").signature ∧
      (pendingDesk.authenticate shortenedRequest 1767225600 0).1 = .ok () ∧
      shortenedRequest.timestamp ≠ some (toString tenfoldOrder.timestamp)) := by
  let next : Authenticator :=
    { pendingDesk with nonces := { pendingDesk.nonces with seen := [("n-1", 0)] } }
  have shifted : next.checkSignature shiftedRequest 1767225600 = .ok "n-1G" :=
    Authenticator.checkSignature_of_text pendingOrder rfl rfl
      (show Text.int64? _ = some 1767225600 by decide) (by decide) rfl (by decide) (by decide) rfl rfl
  have again := @Authenticator.authenticate_of_new next _ _ 0 _ shifted (by decide) (by decide)
  have shortened : pendingDesk.checkSignature shortenedRequest 1767225600 = .ok "1n-1" :=
    Authenticator.checkSignature_of_text tenfoldOrder rfl rfl
      (show Text.int64? _ = some 1767225600 by decide) (by decide) rfl (by decide) (by decide) rfl rfl
  refine ⟨⟨collisionFree_of_message ?_ rfl, rfl, ?_, by decide, by decide⟩,
    collisionFree_of_message ?_ rfl, rfl, ?_, by decide⟩
  · exact AgentRequest.message_eq_of_text (by decide) rfl
  · rw [Authenticator.receive_of_accepted _ authenticate_pendingOrder,
      Authenticator.receive_of_accepted _ again, Authenticator.receive]
  · exact AgentRequest.message_eq_of_text (by decide) rfl
  · rw [Authenticator.authenticate_of_forgotten shortened rfl (by decide)]

end JobRelay
