import JobRelay.Gateway.Basic
import JobRelay.Proofs.Access.NonceLog
import Mathlib.Data.List.Nodup

/-! # Replays

A nonce is meant to be remembered for as long as its request is recent. A request that is dated
ahead by the window is recent for twice the window, so a nonce is remembered long enough exactly if
its time to live is longer than that. The settings ask for the window once only: those that the
rules let pass, the defaults among them, accept some requests twice.
-/

namespace JobRelay

/-- A clock that shows the time of every tick, in nanoseconds since 1970 at tick zero. -/
structure WallClock where
  origin : Int

/-- The second that a clock shows at a tick. -/
def WallClock.second (clock : WallClock) (tick : Nat) : Int :=
  (clock.origin + tick) / ticksPerSecond

/-- Calls that arrive in order, each with the second that a clock shows at its tick. -/
structure WallClock.Times (clock : WallClock) (calls : List AgentCall) : Prop where
  seconds : ∀ call ∈ calls, call.now = clock.second call.tick
  fits : ∀ call ∈ calls, Text.fitsInt64 call.now
  ordered : calls.Pairwise (·.tick ≤ ·.tick)

/-- No request is accepted twice under some settings. -/
def AgentConfig.NoReplay (c : AgentConfig) : Prop :=
  ∀ (clock : WallClock) (calls : List AgentCall), clock.Times calls →
    ((c.authenticator.receive calls).1.map (·.request)).Nodup

private theorem WallClock.ticks_lt (clock : WallClock) {earlier later gap : Nat}
    (near : clock.second later - clock.second earlier ≤ gap) :
    later - earlier < (gap + 1) * ticksPerSecond := by
  simp only [WallClock.second, ticksPerSecond] at near ⊢
  omega

namespace Authenticator

/-- Two recent arrivals of one request are at most twice the window apart. -/
theorem gap_le_of_checkSignature {a : Authenticator} {request : AgentRequest} {first second : Int}
    {nonce other : String} (earlier : a.checkSignature request first = .ok nonce)
    (later : a.checkSignature request second = .ok other) :
    second - first ≤ (2 * a.windowSecs : Nat) := by
  obtain ⟨_, timestamp, sentAt, _, dated, read, recent, _⟩ := checkSignature_eq_ok_iff.mp earlier
  obtain ⟨_, _, _, _, again, reread, still, _⟩ := checkSignature_eq_ok_iff.mp later
  obtain rfl : timestamp = _ := Option.some.inj (dated.symm.trans again)
  obtain rfl : sentAt = _ := Option.some.inj (read.symm.trans reread)
  omega

/-- A memory that is longer than twice the window accepts no request again. -/
theorem nodup_receive (start : Authenticator) (empty : start.nonces.seen = [])
    (long : (2 * start.windowSecs + 1) * ticksPerSecond ≤ start.nonces.ttl)
    {clock : WallClock} {calls : List AgentCall} (times : clock.Times calls) :
    ((start.receive calls).1.map (·.request)).Nodup := by
  induction calls using List.reverseRecOn with
  | nil => exact .nil
  | append_singleton calls call ih =>
    obtain ⟨seconds, fits, ordered⟩ := times
    obtain ⟨sorted, _, before⟩ := List.pairwise_append.mp ordered
    have reached : ∀ other ∈ calls, other.tick ≤ call.tick := fun other member =>
      before other member call (List.mem_singleton_self call)
    have memory := remembers_receive start empty calls sorted
    have unique := ih ⟨fun other member => seconds other (by simp [member]),
      fun other member => fits other (by simp [member]), sorted⟩
    rw [receive_concat]
    generalize (start.receive calls).1 = accepted at memory unique ⊢
    generalize (start.receive calls).2 = a at memory ⊢
    have next := memory.concat reached
    by_cases ok : (a.authenticate call.request call.now call.tick).1.isOk
    · rw [if_pos ok] at next ⊢
      have new : call.request ∉ accepted.map (·.request) := by
        intro again
        obtain ⟨other, member, same⟩ := List.mem_map.mp again
        have forgotten := memory.expired reached ok member (congrArg AgentRequest.nonce same)
        have earlier := next.checked other (by simp [member])
        rw [same, seconds other (by simp [memory.received other member])] at earlier
        have later := next.checked call (by simp)
        rw [seconds call (by simp)] at later
        have near := clock.ticks_lt (gap_le_of_checkSignature earlier later)
        exact absurd near (Nat.not_lt_of_le (Nat.le_trans long forgotten))
      simpa using List.Nodup.concat new unique
    · rw [if_neg ok]
      exact unique

end Authenticator

/-! ## The settings -/

/-- A request that is signed under a secret, dated at the start of 1970. -/
def datedRequest (secret : List UInt8) : AgentRequest :=
  { method := "GET"
    path := "/agent/jobs/pending"
    body := []
    timestamp := some "0"
    nonce := some "n"
    signature := some (requestSignature secret "0" "n" "GET" "/agent/jobs/pending" []) }

private theorem checkSignature_datedRequest {a : Authenticator} {secret : List UInt8}
    (given : a.secret = some secret) {now : Int} (recent : now.natAbs ≤ a.windowSecs) :
    a.checkSignature (datedRequest secret) now = .ok "n" :=
  Authenticator.checkSignature_eq_ok_iff.mpr
    ⟨secret, "0", 0, given, rfl, by decide, by rwa [Int.sub_zero], rfl, by decide, rfl⟩

/-- A request is accepted again as soon as its nonce is forgotten. -/
theorem Authenticator.receive_twice {a : Authenticator} {secret : List UInt8}
    (given : a.secret = some secret) (empty : a.nonces.seen = []) (room : 0 < a.nonces.capacity)
    {soon late : Int} (first : soon.natAbs ≤ a.windowSecs) (second : late.natAbs ≤ a.windowSecs)
    {tick : Nat} (forgotten : a.nonces.ttl ≤ tick) :
    (a.receive [⟨datedRequest secret, soon, 0⟩, ⟨datedRequest secret, late, tick⟩]).1 =
      [⟨datedRequest secret, soon, 0⟩, ⟨datedRequest secret, late, tick⟩] := by
  let next : Authenticator := { a with nonces := { a.nonces with seen := [("n", 0)] } }
  have unheard : (a.nonces.evict 0).seen = [] := by rw [NonceMemory.evict, empty]; rfl
  have once := authenticate_of_forgotten (checkSignature_datedRequest given first) unheard room
  have evicted : (next.nonces.evict tick).seen = [] := by
    simp [next, NonceMemory.evict, forgotten]
  have again := authenticate_of_forgotten
    (checkSignature_datedRequest (show next.secret = some secret from given) second) evicted room
  rw [receive_of_accepted _ once, receive_of_accepted _ again, receive]

/-- One request that arrives ahead of its date and again after a time to live. -/
def arrivals (secret : List UInt8) (ahead : Int) (ttlSecs : Nat) : List AgentCall :=
  [⟨datedRequest secret, ahead, 0⟩,
    ⟨datedRequest secret, ahead + ttlSecs, ttlSecs * ticksPerSecond⟩]

private theorem times_arrivals (secret : List UInt8) {ahead : Int} {ttlSecs : Nat}
    (low : Text.minInt64 ≤ ahead) (high : ahead + ttlSecs ≤ Text.maxInt64) :
    WallClock.Times ⟨ahead * ticksPerSecond⟩ (arrivals secret ahead ttlSecs) where
  seconds := by
    rw [arrivals, List.forall_mem_cons, List.forall_mem_singleton]
    simp only [WallClock.second, ticksPerSecond]
    omega
  fits := by
    rw [arrivals, List.forall_mem_cons, List.forall_mem_singleton]
    show Text.fitsInt64 ahead ∧ Text.fitsInt64 (ahead + ttlSecs)
    rw [Text.fitsInt64_iff, Text.fitsInt64_iff]
    omega
  ordered := by simp [arrivals]

/-- A request that is dated ahead is accepted again after a time to live. -/
theorem receive_arrivals {c : AgentConfig} {secret : List UInt8}
    (given : c.authenticator.secret = some secret) (room : 0 < c.nonceCapacity) {ahead : Int}
    (soon : ahead.natAbs ≤ c.timestampWindowSecs)
    (late : (ahead + c.nonceTtlSecs).natAbs ≤ c.timestampWindowSecs) :
    (c.authenticator.receive (arrivals secret ahead c.nonceTtlSecs)).1 =
      arrivals secret ahead c.nonceTtlSecs :=
  Authenticator.receive_twice given rfl room soon late (Nat.le_refl _)

private theorem validate_eq_ok {c : AgentConfig} (valid : c.validate = .ok ()) :
    0 < c.timestampWindowSecs ∧ c.timestampWindowSecs ≤ c.nonceTtlSecs ∧ 0 < c.nonceCapacity := by
  simp only [AgentConfig.validate, throw_bind, guard_eq_ok_iff] at valid
  obtain ⟨window, ttl, capacity, _⟩ := valid
  omega

private theorem secret_authenticator {c : AgentConfig} :
    c.authenticator.secret = none ↔ c.sharedSecret.all (·.isEmpty) := by
  cases given : c.sharedSecret with
  | none => simp [AgentConfig.authenticator, Authenticator.create, given]
  | some secret => simp [AgentConfig.authenticator, Authenticator.create, given, Option.filter]

/-- Without a secret no request is accepted. -/
theorem Authenticator.receive_of_unset {a : Authenticator} (unset : a.secret = none)
    (empty : a.nonces.seen = []) (calls : List AgentCall) (sorted : calls.Pairwise (·.tick ≤ ·.tick)) :
    (a.receive calls).1 = [] := by
  apply List.eq_nil_iff_forall_not_mem.mpr
  intro call member
  have checked := (a.remembers_receive empty calls sorted).checked call member
  rw [Authenticator.checkSignature, unset] at checked
  cases checked

/-- Under settings that the rules let pass, requests are safe from replays exactly if none is
accepted at all or a nonce is remembered for more than twice the window. -/
theorem noReplay_iff (c : AgentConfig) (valid : c.validate = .ok ())
    (bounded : c.nonceTtlSecs < Nat.pow 2 64) :
    c.NoReplay ↔ c.sharedSecret.all (·.isEmpty) ∨ 2 * c.timestampWindowSecs < c.nonceTtlSecs := by
  obtain ⟨_, nonempty, room⟩ := validate_eq_ok valid
  rw [← secret_authenticator]
  constructor
  · intro safe
    by_contra exposed
    rw [not_or] at exposed
    obtain ⟨set, short⟩ := exposed
    obtain ⟨secret, given⟩ := Option.ne_none_iff_exists'.mp set
    -- Dated half a time to live ahead, the request is recent both times.
    let ahead : Int := (c.nonceTtlSecs / 2 : Nat) - c.nonceTtlSecs
    have replayed := receive_arrivals given room (show ahead.natAbs ≤ _ by omega)
      (show (ahead + c.nonceTtlSecs).natAbs ≤ _ by omega)
    have limit : c.nonceTtlSecs < 18446744073709551616 := bounded
    have earliest : Text.minInt64 ≤ ahead := by unfold Text.minInt64; omega
    have latest : ahead + c.nonceTtlSecs ≤ Text.maxInt64 := by unfold Text.maxInt64; omega
    have unique := safe _ _ (times_arrivals secret earliest latest)
    rw [replayed] at unique
    simp [arrivals] at unique
  · rintro (unset | long)
    · intro clock calls times
      rw [Authenticator.receive_of_unset unset rfl calls times.ordered]
      exact .nil
    · intro clock calls times
      apply Authenticator.nodup_receive _ rfl _ times
      exact Nat.mul_le_mul_right _ long

/-- The default settings let a request come again; one more second of memory would not. -/
theorem noReplay_defaults :
    ¬({ sharedSecret := some "s3cret" } : AgentConfig).NoReplay ∧
      ({ sharedSecret := some "s3cret", nonceTtlSecs := 121 } : AgentConfig).NoReplay := by
  constructor
  · rw [noReplay_iff _ rfl (by decide)]
    decide
  · rw [noReplay_iff _ rfl (by decide)]
    decide

end JobRelay
