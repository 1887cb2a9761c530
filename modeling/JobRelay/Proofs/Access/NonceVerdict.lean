import JobRelay.Proofs.Access.Replay

/-! # Verdicts on nonces

The nonce memory is opportunistic: it forgets when it is asked. What it answers is nevertheless
told by the log of the accepted calls alone. A signed call is refused as replayed exactly if an
accepted call carried its nonce within the time to live, and for want of room exactly if as many
accepted calls as there is room for lie within it.
-/

namespace JobRelay.Authenticator

/-- The accepted calls that lie within a time to live before a tick. -/
def livingCalls (ttl : Nat) (accepted : List AgentCall) (tick : Nat) : List AgentCall :=
  accepted.filter fun call => call.tick ≤ tick ∧ tick < call.tick + ttl

/-- What the log of the accepted calls says of a call. -/
def logVerdict (a : Authenticator) (accepted : List AgentCall) (call : AgentCall) :
    Except AuthRejection Unit :=
  match a.checkSignature call.request call.now with
  | .error rejection => .error rejection
  | .ok nonce =>
    let living := livingCalls a.nonces.ttl accepted call.tick
    if living.any (·.request.nonce == some nonce) then .error .replayed
    else if a.nonces.capacity ≤ living.length then .error .nonceCapacity
    else .ok ()

variable {start a : Authenticator} {calls accepted : List AgentCall} {call : AgentCall}

/-- The nonces that are alive at a call are those of the accepted calls within the time to live. -/
private theorem Remembers.seen_eq (memory : Remembers start calls accepted a)
    (ordered : ∀ other ∈ calls, other.tick ≤ call.tick) :
    (a.nonces.evict call.tick).seen =
      (livingCalls start.nonces.ttl accepted call.tick).map AgentCall.entry := by
  rw [memory.alive call.tick ordered, livingCalls, List.filter_map]
  congr 1
  apply List.filter_congr
  intro other member
  have before := ordered other (memory.received other member)
  show decide (call.tick - other.tick < start.nonces.ttl) =
    decide (other.tick ≤ call.tick ∧ call.tick < other.tick + start.nonces.ttl)
  rw [decide_eq_decide]
  omega

/-- A remembered nonce is the one that its call carried. -/
private theorem Remembers.entry_eq_iff (memory : Remembers start calls accepted a)
    {other : AgentCall} (member : other ∈ accepted) (nonce : String) :
    other.entry.1 = nonce ↔ other.request.nonce = some nonce := by
  rw [nonce_of_checkSignature (memory.checked other member), Option.some_inj]

/-- A call is answered as the log of the accepted calls says. -/
theorem Remembers.verdict_eq (memory : Remembers start calls accepted a)
    (ordered : ∀ other ∈ calls, other.tick ≤ call.tick) :
    (a.authenticate call.request call.now call.tick).1 = start.logVerdict accepted call := by
  have same : a.checkSignature call.request call.now =
      start.checkSignature call.request call.now := by
    rw [memory.frame]
    rfl
  have size : a.nonces.capacity = start.nonces.capacity := by rw [memory.frame]
  have seen := memory.seen_eq ordered
  have listed : ∀ other ∈ livingCalls start.nonces.ttl accepted call.tick, other ∈ accepted :=
    fun other living => (List.mem_filter.mp living).1
  rw [logVerdict, ← same]
  rcases a.authenticate_cases call.request call.now call.tick with
    ⟨rejection, checked, refused⟩ | ⟨nonce, checked, known | ⟨new, room⟩⟩
  · rw [checked, refused]
  · obtain ⟨⟨entry, present, told⟩, replayed⟩ := known
    rw [seen] at present
    obtain ⟨other, living, rfl⟩ := List.mem_map.mp present
    have carries := (memory.entry_eq_iff (listed other living) nonce).mp told
    have found : (livingCalls start.nonces.ttl accepted call.tick).any
        (·.request.nonce == some nonce) := List.any_eq_true.mpr ⟨other, living, by simp [carries]⟩
    simp only [checked, replayed, found, if_true]
  · have missing : (livingCalls start.nonces.ttl accepted call.tick).any
        (·.request.nonce == some nonce) = false := by
      rw [List.any_eq_false]
      intro other living carries
      refine new other.entry ?_ ((memory.entry_eq_iff (listed other living) nonce).mpr
        (by simpa using carries))
      rw [seen]
      exact List.mem_map_of_mem living
    rw [seen, List.length_map, size] at room
    rcases room with ⟨full, refused⟩ | ⟨free, fresh⟩
    · simp only [checked, refused, missing, full, if_true]
      rfl
    · simp only [checked, fresh, missing, Nat.not_le_of_lt free, if_false]
      rfl

/-! ## Every run of calls -/

/-- No check keeps more nonces than there is room for, nor makes room. -/
theorem size_authenticate_le (fits : a.nonces.seen.length ≤ a.nonces.capacity) (call : AgentCall) :
    (a.authenticate call.request call.now call.tick).2.nonces.capacity = a.nonces.capacity ∧
      (a.authenticate call.request call.now call.tick).2.nonces.seen.length ≤
        a.nonces.capacity := by
  have fewer : (a.nonces.evict call.tick).seen.length ≤ a.nonces.capacity :=
    Nat.le_trans (List.length_filter_le ..) fits
  rcases a.authenticate_cases call.request call.now call.tick with
    ⟨_, _, refused⟩ | ⟨nonce, _, ⟨_, refused⟩ | ⟨_, ⟨_, refused⟩ | ⟨free, fresh⟩⟩⟩
  · rw [refused]
    exact ⟨rfl, fits⟩
  · rw [refused]
    exact ⟨rfl, fewer⟩
  · rw [refused]
    exact ⟨rfl, fewer⟩
  · rw [fresh]
    refine ⟨rfl, ?_⟩
    rw [List.length_append]
    exact free

private theorem size_receive_le (fits : a.nonces.seen.length ≤ a.nonces.capacity)
    (calls : List AgentCall) :
    (a.receive calls).2.nonces.seen.length ≤ a.nonces.capacity := by
  induction calls generalizing a with
  | nil => exact fits
  | cons call rest ih =>
    obtain ⟨same, size⟩ := size_authenticate_le fits call
    have later := ih (by rwa [same])
    rwa [same] at later

/-- The nonce memory is exact: the log of the accepted calls decides every verdict, so that refused
calls change none, and the memory keeps within its room. A memory that outlasts twice the window by
a second accepts no request again, whatever second a clock shows. -/
structure ExactMemory (start : Authenticator) : Prop where
  verdict : ∀ (calls : List AgentCall) (call : AgentCall), (calls ++ [call]).Pairwise (·.tick ≤ ·.tick) →
    ((start.receive calls).2.authenticate call.request call.now call.tick).1 =
      start.logVerdict (start.receive calls).1 call
  unheard : ∀ (before : List AgentCall) (refused : AgentCall) (rest : List AgentCall)
    (call : AgentCall),
    (before ++ refused :: rest ++ [call]).Pairwise (·.tick ≤ ·.tick) →
    ((start.receive before).2.authenticate refused.request refused.now refused.tick).1 ≠ .ok () →
      ((start.receive (before ++ refused :: rest)).2.authenticate
          call.request call.now call.tick).1 =
        ((start.receive (before ++ rest)).2.authenticate call.request call.now call.tick).1
  size : ∀ calls, (start.receive calls).2.nonces.seen.length ≤ start.nonces.capacity
  unrepeated : (2 * start.windowSecs + 1) * ticksPerSecond ≤ start.nonces.ttl →
    ∀ (clock : WallClock) (calls : List AgentCall), clock.Times calls →
      ((start.receive calls).1.map (·.request)).Nodup

private theorem verdict_eq_logVerdict (empty : start.nonces.seen = []) (calls : List AgentCall)
    (call : AgentCall) (sorted : (calls ++ [call]).Pairwise (·.tick ≤ ·.tick)) :
    ((start.receive calls).2.authenticate call.request call.now call.tick).1 =
      start.logVerdict (start.receive calls).1 call := by
  obtain ⟨sorted, _, before⟩ := List.pairwise_append.mp sorted
  exact (remembers_receive start empty calls sorted).verdict_eq fun other member =>
    before other member call (List.mem_singleton_self call)

/-- Leaving out a refused call leaves the log of the accepted calls as it is. -/
private theorem accepted_without (empty : start.nonces.seen = []) {before rest : List AgentCall}
    {refused : AgentCall} (sorted : (before ++ refused :: rest).Pairwise (·.tick ≤ ·.tick))
    (rejected :
      ((start.receive before).2.authenticate refused.request refused.now refused.tick).1 ≠ .ok ()) :
    (start.receive (before ++ refused :: rest)).1 = (start.receive (before ++ rest)).1 := by
  induction rest using List.reverseRecOn with
  | nil =>
    rw [receive_concat, if_neg, List.append_nil]
    cases verdict : ((start.receive before).2.authenticate refused.request refused.now
        refused.tick).1 with
    | error => exact Bool.false_ne_true
    | ok => exact absurd verdict rejected
  | append_singleton rest call ih =>
    have whole : before ++ refused :: (rest ++ [call]) = before ++ refused :: rest ++ [call] := by
      simp
    rw [whole] at sorted ⊢
    have fewer := sorted.sublist
      (((List.sublist_cons_self refused rest).append_left before).append_right [call])
    have same := ih (List.pairwise_append.mp sorted).1
    rw [← List.append_assoc, receive_concat, receive_concat,
      verdict_eq_logVerdict empty _ _ sorted, verdict_eq_logVerdict empty _ _ fewer, same]

/-- The memory of every authenticator is exact from the first call on. -/
theorem exactMemory_create (secret : Option String) (windowSecs ttl capacity : Nat)
    (limiter : RateLimiter) :
    ExactMemory (create secret windowSecs { ttl, capacity } limiter) where
  verdict := verdict_eq_logVerdict rfl
  unheard before refused rest call sorted rejected := by
    have fewer := sorted.sublist
      (((List.sublist_cons_self refused rest).append_left before).append_right [call])
    rw [verdict_eq_logVerdict rfl _ _ sorted, verdict_eq_logVerdict rfl _ _ fewer,
      accepted_without rfl (List.pairwise_append.mp sorted).1 rejected]
  size := size_receive_le (Nat.zero_le _)
  unrepeated long clock calls times := nodup_receive _ rfl long times

/-- A request dated at the start of 1970 arrives a minute before that and, by a clock that shows
whole seconds, a minute after it. -/
def brokenMinute (secret : List UInt8) : List AgentCall :=
  [⟨datedRequest secret, -60, 0⟩, ⟨datedRequest secret, 60, 120900000000⟩]

/-- A memory that outlasts twice the window by half a second accepts a request twice, because a
clock that shows whole seconds hides the rest. -/
theorem brokenMinute_accepted :
    2 * 60 * ticksPerSecond < 120500000000 ∧
      WallClock.Times ⟨-60 * ticksPerSecond⟩ (brokenMinute (utf8 "s3cret")) ∧
      ((create (some "s3cret") 60 { ttl := 120500000000, capacity := 10 }
          { maxPerWindow := 100, window := 60000000000 }).receive
        (brokenMinute (utf8 "s3cret"))).1 = brokenMinute (utf8 "s3cret") ∧
      ¬((brokenMinute (utf8 "s3cret")).map (·.request)).Nodup := by
  refine ⟨by decide, ⟨?_, ?_, ?_⟩, ?_, ?_⟩
  · rw [brokenMinute, List.forall_mem_cons, List.forall_mem_singleton]
    decide
  · rw [brokenMinute, List.forall_mem_cons, List.forall_mem_singleton]
    show Text.fitsInt64 (-60) ∧ Text.fitsInt64 60
    decide
  · simp [brokenMinute]
  · exact receive_twice rfl rfl (by decide) (by decide) (by decide) (by decide)
  · simp [brokenMinute]

end JobRelay.Authenticator
