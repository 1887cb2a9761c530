import JobRelay.Proofs.Access.Authenticity

/-! # What is signed arrives

The agent writes its time in decimal digits, signs the method in capitals and writes the code in
hexadecimal digits; the authenticator reads the time back, signs again and compares. Both ends agree
on every request: what an agent has signed is refused for its time outside the window, and inside it
is at the mercy of the nonce memory alone.
-/

namespace JobRelay

/-- The nonces that are alive at a tick. -/
def NonceMemory.living (m : NonceMemory) (tick : Nat) : List String :=
  (m.evict tick).seen.map (·.1)

namespace AgentOrder

/-- A request that arrives as it was signed has the text that was signed. -/
private theorem Arrives.text {order : AgentOrder} {request : AgentRequest}
    (arrives : order.Arrives request) : request.text = order.text := by
  rw [AgentRequest.text, AgentOrder.text, arrives.timestamp, arrives.nonce, arrives.method,
    arrives.path]
  rfl

end AgentOrder

namespace Authenticator

variable {a : Authenticator} {order : AgentOrder} {request : AgentRequest} {secret : String}
  {now : Int}

/-- A request with all its headers is refused for its time before its signature is looked at. -/
theorem checkSignature_of_stale {key : List UInt8} {timestamp nonce signature : String}
    {sentAt : Int} (given : a.secret = some key) (dated : request.timestamp = some timestamp)
    (named : request.nonce = some nonce) (nonempty : nonce.isEmpty = false)
    (signed : request.signature = some signature) (read : Text.int64? timestamp = some sentAt)
    (stale : a.windowSecs < (now - sentAt).natAbs) :
    a.checkSignature request now = .error .timestampOutOfWindow := by
  have kept : request.nonce.filter (fun n => !n.isEmpty) = some nonce := by
    rw [named, Option.filter_some, nonempty]
    rfl
  rw [checkSignature, given]
  dsimp only
  rw [bind_of_eq_ok (requireHeader_eq_ok_iff.mpr dated),
    bind_of_eq_ok (requireHeader_eq_ok_iff.mpr kept),
    bind_of_eq_ok (requireHeader_eq_ok_iff.mpr signed), read]
  simp only [if_pos stale]
  rfl

/-- What is left of the checks for a request that arrives as it was signed. -/
theorem checkSignature_of_arrives (given : a.secret = some (utf8 secret))
    (written : Text.fitsInt64 order.timestamp) (named : order.nonce ≠ "")
    (arrives : order.Arrives request)
    (bears : request.signature = some (order.headers secret).signature) :
    a.checkSignature request now =
      if a.windowSecs < (now - order.timestamp).natAbs then .error .timestampOutOfWindow
      else .ok order.nonce := by
  have read := Text.int64?_toString written
  have nonempty : order.nonce.isEmpty = false := by simpa using named
  split
  · rename_i stale
    exact checkSignature_of_stale given arrives.timestamp arrives.nonce nonempty bears read stale
  · rename_i recent
    exact checkSignature_of_text order given arrives.timestamp read (Nat.le_of_not_lt recent)
      arrives.nonce nonempty arrives.text arrives.body bears

/-- Behind the checks a request is accepted exactly if its nonce is not alive and finds room. -/
theorem accepted_iff {tick : Nat} {nonce : String}
    (checked : a.checkSignature request now = .ok nonce) :
    (a.authenticate request now tick).1 = .ok () ↔
      nonce ∉ a.nonces.living tick ∧ (a.nonces.living tick).length < a.nonces.capacity := by
  have size : (a.nonces.living tick).length = (a.nonces.evict tick).seen.length := List.length_map ..
  have alive : nonce ∈ a.nonces.living tick ↔ ∃ entry ∈ (a.nonces.evict tick).seen, entry.1 = nonce :=
    List.mem_map
  rw [size, alive]
  constructor
  · intro accepted
    rcases a.authenticate_cases request now tick with
      ⟨_, _, refused⟩ | ⟨other, same, ⟨_, refused⟩ | ⟨new, ⟨_, refused⟩ | ⟨room, _⟩⟩⟩
    case inr.inr.inr =>
      cases checked.symm.trans same
      exact ⟨fun ⟨entry, present, told⟩ => new entry present told, room⟩
    all_goals
      rw [refused] at accepted
      cases accepted
  · rintro ⟨new, room⟩
    rw [authenticate_of_new checked (fun entry present told => new ⟨entry, present, told⟩) room]

end Authenticator

/-- What becomes of a signed request at a time and a tick. -/
structure AgentOrder.Received (order : AgentOrder) (a : Authenticator) (request : AgentRequest)
    (now : Int) (tick : Nat) : Prop where
  /-- It is accepted exactly if it is recent, its nonce is not alive and there is room for it. -/
  accepted : (a.authenticate request now tick).1 = .ok () ↔
    (now - order.timestamp).natAbs ≤ a.windowSecs ∧ order.nonce ∉ a.nonces.living tick ∧
      (a.nonces.living tick).length < a.nonces.capacity
  /-- Outside the window it is refused for its time, and the memory stays as it is. -/
  stale : a.windowSecs < (now - order.timestamp).natAbs →
    a.authenticate request now tick = (.error .timestampOutOfWindow, a)
  /-- The distance in time fits an unsigned field of the width in which the times are kept. -/
  measured : Text.fitsInt64 now → (now - order.timestamp).natAbs < Nat.pow 2 64

/-- Two seconds that fit signed 64-bit fields are apart by what fits an unsigned one. -/
private theorem distance_lt {sentAt now : Int} (written : Text.fitsInt64 sentAt)
    (told : Text.fitsInt64 now) : (now - sentAt).natAbs < Nat.pow 2 64 := by
  obtain ⟨early, late⟩ := Text.fitsInt64_iff.mp written
  obtain ⟨least, most⟩ := Text.fitsInt64_iff.mp told
  unfold Text.minInt64 at early least
  unfold Text.maxInt64 at late most
  show _ < 18446744073709551616
  omega

/-- Whatever an agent signs under a secret, with the time in a signed 64-bit field and a nonce that is
not empty, is received by every authenticator with that secret, whatever the case of the method's
letters on either side. -/
theorem AgentOrder.received_create (secret : String) (windowSecs : Nat) (nonces : NonceMemory)
    (limiter : RateLimiter) (order : AgentOrder) (request : AgentRequest) (given : secret ≠ "")
    (written : Text.fitsInt64 order.timestamp) (named : order.nonce ≠ "")
    (arrives : order.Arrives request)
    (bears : request.signature = some (order.headers secret).signature) (now : Int) (tick : Nat) :
    order.Received (.create (some secret) windowSecs nonces limiter) request now tick := by
  have kept : (Authenticator.create (some secret) windowSecs nonces limiter).secret =
      some (utf8 secret) := by
    have something : secret.isEmpty = false := by simpa using given
    simp [Authenticator.create, Option.filter_some, something]
  generalize Authenticator.create (some secret) windowSecs nonces limiter = a at kept ⊢
  have checked := @Authenticator.checkSignature_of_arrives a order request secret now kept written
    named arrives bears
  by_cases stale : a.windowSecs < (now - order.timestamp).natAbs
  · rw [if_pos stale] at checked
    have refused : a.authenticate request now tick = (.error .timestampOutOfWindow, a) := by
      rw [Authenticator.authenticate, checked]
    refine ⟨?_, fun _ => refused, distance_lt written⟩
    rw [refused]
    constructor
    · intro accepted
      cases accepted
    · intro within
      exact absurd stale (Nat.not_lt_of_le within.1)
  · rw [if_neg stale] at checked
    refine ⟨?_, fun other => absurd other stale, distance_lt written⟩
    rw [Authenticator.accepted_iff checked]
    exact (and_iff_right (Nat.le_of_not_lt stale)).symm

/-- An order that is dated as early as can be written. -/
def earliestOrder : AgentOrder :=
  { method := "pOsT"
    path := "/agent/jobs/claim"
    body := utf8 "\x7b\"job_ids\":[\"j\"]\x7d"
    timestamp := Text.minInt64
    nonce := "n-2" }

/-- The same order with the letters of its method in another case. -/
def earliestRequest : AgentRequest := { earliestOrder.request "s3cret" with method := "PoSt" }

/-- A minute after it is dated the order is accepted beside a nonce that is alive; at the latest
second that can be written it is refused for its time. -/
theorem received_earliestOrder :
    let a := Authenticator.create (some "s3cret") 60
      { ttl := 120, capacity := 2, seen := [("n-2", 0), ("n-1", 100)] }
      { maxPerWindow := 1, window := 1 }
    (a.authenticate earliestRequest (Text.minInt64 + 60) 120).1 = .ok () ∧
      a.authenticate earliestRequest Text.maxInt64 120 = (.error .timestampOutOfWindow, a) := by
  have received := earliestOrder.received_create "s3cret" 60
    { ttl := 120, capacity := 2, seen := [("n-2", 0), ("n-1", 100)] }
    { maxPerWindow := 1, window := 1 } earliestRequest (by decide) (by decide) (by decide)
    ⟨rfl, rfl, by decide, rfl, rfl⟩ rfl
  exact ⟨(received _ 120).accepted.mpr ⟨by decide, by decide, by decide⟩,
    (received _ 120).stale (by decide)⟩

end JobRelay
