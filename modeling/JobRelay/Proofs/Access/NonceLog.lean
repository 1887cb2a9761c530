import JobRelay.Access.Authenticator
import JobRelay.Proofs.Results
import Mathlib.Data.List.Induction

/-! # What the nonce memory remembers

Agents' requests are checked one after the other, each at a time in seconds and at a tick. As long
as ticks do not run backwards, the nonces that are alive at a tick are exactly those of the
requests that were accepted within the time to live before it.
-/

namespace JobRelay

/-- A request of an agent with the time in seconds and the tick at which it is checked. -/
structure AgentCall where
  request : AgentRequest
  now : Int
  tick : Nat

/-- What is remembered of an accepted call. -/
def AgentCall.entry (call : AgentCall) : String × Nat :=
  (call.request.nonce.getD "", call.tick)

namespace Authenticator

/-- Checks calls one after the other and tells which are accepted, the first one first. -/
def receive (a : Authenticator) : List AgentCall → List AgentCall × Authenticator
  | [] => ([], a)
  | call :: rest =>
    let (result, next) := a.authenticate call.request call.now call.tick
    let (accepted, last) := next.receive rest
    (if result.isOk then call :: accepted else accepted, last)

/-- An accepted call comes first among those that are accepted. -/
theorem receive_of_accepted {a next : Authenticator} {call : AgentCall} (rest : List AgentCall)
    (accepted : a.authenticate call.request call.now call.tick = (.ok (), next)) :
    (a.receive (call :: rest)).1 = call :: (next.receive rest).1 := by
  rw [receive, accepted]
  rfl

theorem receive_concat (a : Authenticator) (calls : List AgentCall) (call : AgentCall) :
    a.receive (calls ++ [call]) =
      (if ((a.receive calls).2.authenticate call.request call.now call.tick).1.isOk then
          (a.receive calls).1 ++ [call]
        else (a.receive calls).1,
        ((a.receive calls).2.authenticate call.request call.now call.tick).2) := by
  induction calls generalizing a with
  | nil => rfl
  | cons first rest ih =>
    simp only [List.cons_append, receive, ih]
    split <;> split <;> rfl

/-- Every outcome of a check: refused before the nonce, or by the nonce, or accepted. -/
theorem authenticate_cases (a : Authenticator) (request : AgentRequest) (now : Int) (tick : Nat) :
    (∃ rejection, a.checkSignature request now = .error rejection ∧
      a.authenticate request now tick = (.error rejection, a)) ∨
    ∃ nonce, a.checkSignature request now = .ok nonce ∧
      (((∃ entry ∈ (a.nonces.evict tick).seen, entry.1 = nonce) ∧
          a.authenticate request now tick =
            (.error .replayed, { a with nonces := a.nonces.evict tick })) ∨
        (∀ entry ∈ (a.nonces.evict tick).seen, entry.1 ≠ nonce) ∧
          ((a.nonces.capacity ≤ (a.nonces.evict tick).seen.length ∧
              a.authenticate request now tick =
                (.error .nonceCapacity, { a with nonces := a.nonces.evict tick })) ∨
            (a.nonces.evict tick).seen.length < a.nonces.capacity ∧
              a.authenticate request now tick =
                (.ok (), { a with nonces := { a.nonces with
                  seen := (a.nonces.evict tick).seen ++ [(nonce, tick)] } }))) := by
  cases checked : a.checkSignature request now with
  | error rejection => exact .inl ⟨rejection, rfl, by rw [authenticate, checked]⟩
  | ok nonce =>
    refine .inr ⟨nonce, rfl, ?_⟩
    simp only [authenticate, checked, NonceMemory.present]
    by_cases known : (a.nonces.evict tick).seen.any (·.1 == nonce)
    · refine .inl ⟨by simpa using known, ?_⟩
      rw [if_pos known]
    · have absent : ∀ entry ∈ (a.nonces.evict tick).seen, entry.1 ≠ nonce := fun entry present same =>
        known (List.any_eq_true.mpr ⟨entry, present, by simp [same]⟩)
      refine .inr ⟨absent, ?_⟩
      rw [if_neg known]
      by_cases full : (a.nonces.evict tick).capacity ≤ (a.nonces.evict tick).seen.length
      · exact .inl ⟨full, by rw [if_pos full]⟩
      · exact .inr ⟨Nat.lt_of_not_le full, by rw [if_neg full]; rfl⟩

/-- A signed request with a new nonce is accepted by a memory with room. -/
theorem authenticate_of_new {a : Authenticator} {request : AgentRequest} {now : Int} {tick : Nat}
    {nonce : String} (checked : a.checkSignature request now = .ok nonce)
    (new : ∀ entry ∈ (a.nonces.evict tick).seen, entry.1 ≠ nonce)
    (room : (a.nonces.evict tick).seen.length < a.nonces.capacity) :
    a.authenticate request now tick =
      (.ok (), { a with nonces := { a.nonces with
        seen := (a.nonces.evict tick).seen ++ [(nonce, tick)] } }) := by
  rcases a.authenticate_cases request now tick with
    ⟨_, refused, _⟩ | ⟨_, same, ⟨⟨entry, known, told⟩, _⟩ | ⟨_, ⟨full, _⟩ | ⟨_, fresh⟩⟩⟩
  · rw [checked] at refused
    cases refused
  · cases checked.symm.trans same
    exact absurd told (new entry known)
  · exact absurd room (Nat.not_lt_of_le full)
  · cases checked.symm.trans same
    exact fresh

/-- With nothing alive in a memory with room, a signed request is accepted. -/
theorem authenticate_of_forgotten {a : Authenticator} {request : AgentRequest} {now : Int}
    {tick : Nat} {nonce : String} (checked : a.checkSignature request now = .ok nonce)
    (forgotten : (a.nonces.evict tick).seen = []) (room : 0 < a.nonces.capacity) :
    a.authenticate request now tick =
      (.ok (), { a with nonces := { a.nonces with seen := [(nonce, tick)] } }) := by
  have accepted := @authenticate_of_new a request now tick nonce checked
  rw [forgotten] at accepted
  exact accepted nofun room

/-- What an authenticator has become after some calls: as it was but for the nonces it has seen,
of which those that are alive at any later tick are the ones of the accepted calls. -/
structure Remembers (start : Authenticator) (calls accepted : List AgentCall)
    (a : Authenticator) : Prop where
  frame : a = { start with nonces := { start.nonces with seen := a.nonces.seen } }
  received : ∀ call ∈ accepted, call ∈ calls
  checked : ∀ call ∈ accepted,
    start.checkSignature call.request call.now = .ok call.entry.1
  alive : ∀ tick, (∀ call ∈ calls, call.tick ≤ tick) →
    (a.nonces.evict tick).seen =
      (accepted.map AgentCall.entry).filter fun entry => tick - entry.2 < start.nonces.ttl

theorem requireHeader_eq_ok_iff {name value : String} {header : Option String} :
    requireHeader name header = .ok value ↔ header = some value := by
  cases header with
  | none => exact ⟨nofun, nofun⟩
  | some found => rw [requireHeader, Except.ok.injEq, Option.some_inj]

private theorem compareSignatures_eq_ok_iff {expected supplied : String} :
    compareSignatures expected supplied = .ok () ↔ supplied = expected := by
  constructor
  · intro same
    by_contra other
    have differ : expected ≠ supplied := fun h => other h.symm
    rw [compareSignatures, if_pos differ] at same
    split at same
    · cases same
    · cases same
  · rintro rfl
    simp [compareSignatures]

/-- A request passes the checks before the nonce exactly if it is recent, brings a nonce and is
signed under the secret. -/
theorem checkSignature_eq_ok_iff {a : Authenticator} {request : AgentRequest} {now : Int}
    {nonce : String} :
    a.checkSignature request now = .ok nonce ↔
      ∃ secret timestamp sentAt, a.secret = some secret ∧ request.timestamp = some timestamp ∧
        Text.int64? timestamp = some sentAt ∧ (now - sentAt).natAbs ≤ a.windowSecs ∧
        request.nonce = some nonce ∧ nonce.isEmpty = false ∧
        request.signature = some
          (requestSignature secret timestamp nonce request.method request.path request.body) := by
  unfold checkSignature
  cases a.secret with
  | none => exact ⟨nofun, nofun⟩
  | some secret =>
    simp only [bind_eq_ok_iff, requireHeader_eq_ok_iff]
    constructor
    · rintro ⟨timestamp, dated, given, named, signature, signed, passed⟩
      split at passed
      · cases passed
      · rename_i sentAt read
        simp only [throw_bind, guard_eq_ok_iff, bind_eq_ok_iff, pure_eq_ok_iff] at passed
        obtain ⟨recent, _, compared, rfl⟩ := passed
        obtain ⟨present, nonempty⟩ := Option.filter_eq_some_iff.mp named
        refine ⟨secret, timestamp, sentAt, rfl, dated, read, Nat.le_of_not_lt recent, present,
          by simpa using nonempty, ?_⟩
        rw [signed, compareSignatures_eq_ok_iff.mp compared]
    · rintro ⟨_, timestamp, sentAt, ⟨⟩, dated, read, recent, present, nonempty, signed⟩
      refine ⟨timestamp, dated, nonce, ?_, _, signed, ?_⟩
      · rw [Option.filter_eq_some_iff]
        exact ⟨present, by simpa using nonempty⟩
      · rw [read]
        simp only [throw_bind, guard_eq_ok_iff, bind_eq_ok_iff, pure_eq_ok_iff]
        exact ⟨Nat.not_lt_of_le recent, (), compareSignatures_eq_ok_iff.mpr rfl, trivial⟩

theorem nonce_of_checkSignature {a : Authenticator} {request : AgentRequest} {now : Int}
    {nonce : String} (checked : a.checkSignature request now = .ok nonce) :
    request.nonce = some nonce := by
  obtain ⟨_, _, _, _, _, _, _, present, _⟩ := checkSignature_eq_ok_iff.mp checked
  exact present

/-- What is alive at a tick was alive at every tick before, once it was seen. -/
theorem filter_alive (seen : List (String × Nat)) (ttl : Nat) {earlier later : Nat}
    (le : earlier ≤ later) :
    (seen.filter fun entry => earlier - entry.2 < ttl).filter (fun entry => later - entry.2 < ttl) =
      seen.filter fun entry => later - entry.2 < ttl := by
  rw [List.filter_filter]
  apply List.filter_congr
  intro entry _
  rw [Bool.eq_iff_iff]
  simp only [Bool.and_eq_true, decide_eq_true_eq]
  omega

/-- One more call is remembered if it is accepted, and changes nothing else that is alive. -/
theorem Remembers.concat {start a : Authenticator} {calls accepted : List AgentCall}
    (before : Remembers start calls accepted a) {call : AgentCall}
    (ordered : ∀ other ∈ calls, other.tick ≤ call.tick) :
    Remembers start (calls ++ [call])
      (if (a.authenticate call.request call.now call.tick).1.isOk then accepted ++ [call]
        else accepted)
      (a.authenticate call.request call.now call.tick).2 := by
  obtain ⟨seen, rfl⟩ : ∃ seen, a = { start with nonces := { start.nonces with seen } } :=
    ⟨_, before.frame⟩
  have listed : ∀ other ∈ accepted, other ∈ calls ++ [call] := fun other member =>
    List.mem_append_left _ (before.received other member)
  -- Before the call, whatever is alive from its tick on is what the accepted calls left.
  have kept (tick : Nat) (reached : ∀ other ∈ calls ++ [call], other.tick ≤ tick) :
      call.tick ≤ tick ∧ (seen.filter fun entry => tick - entry.2 < start.nonces.ttl) =
        (accepted.map AgentCall.entry).filter fun entry => tick - entry.2 < start.nonces.ttl :=
    ⟨reached call (by simp), before.alive tick fun other member =>
      reached other (List.mem_append_left _ member)⟩
  rcases authenticate_cases { start with nonces := { start.nonces with seen } } call.request
      call.now call.tick with
    ⟨_, _, refused⟩ | ⟨nonce, checked, ⟨_, replayed⟩ | ⟨_, ⟨_, full⟩ | ⟨_, fresh⟩⟩⟩
  · rw [refused]
    exact ⟨rfl, listed, before.checked, fun tick reached => (kept tick reached).2⟩
  · rw [replayed]
    refine ⟨rfl, listed, before.checked, fun tick reached => ?_⟩
    obtain ⟨later, same⟩ := kept tick reached
    exact (filter_alive seen start.nonces.ttl later).trans same
  · rw [full]
    refine ⟨rfl, listed, before.checked, fun tick reached => ?_⟩
    obtain ⟨later, same⟩ := kept tick reached
    exact (filter_alive seen start.nonces.ttl later).trans same
  · rw [fresh]
    have present := nonce_of_checkSignature checked
    have entry : call.entry = (nonce, call.tick) := by rw [AgentCall.entry, present]; rfl
    refine ⟨rfl, ?_, ?_, fun tick reached => ?_⟩
    · intro other member
      rcases List.mem_append.mp member with old | new
      · exact listed other old
      · exact List.mem_append_right _ new
    · intro other member
      rcases List.mem_append.mp member with old | new
      · exact before.checked other old
      · obtain rfl := List.mem_singleton.mp new
        rw [entry]
        exact checked
    · obtain ⟨later, same⟩ := kept tick reached
      show List.filter _ (List.filter _ seen ++ [(nonce, call.tick)]) =
        ((accepted ++ [call]).map AgentCall.entry).filter _
      rw [List.filter_append, List.map_append, List.filter_append]
      rw [filter_alive seen start.nonces.ttl later, same, List.map_singleton, entry]

/-- A memory that was empty remembers exactly the accepted calls. -/
theorem remembers_receive (start : Authenticator) (empty : start.nonces.seen = [])
    (calls : List AgentCall) (sorted : calls.Pairwise (·.tick ≤ ·.tick)) :
    Remembers start calls (start.receive calls).1 (start.receive calls).2 := by
  induction calls using List.reverseRecOn with
  | nil =>
    refine ⟨rfl, nofun, nofun, fun tick _ => ?_⟩
    simp [receive, NonceMemory.evict, empty]
  | append_singleton calls call ih =>
    obtain ⟨sorted, _, ordered⟩ := List.pairwise_append.mp sorted
    rw [receive_concat]
    exact (ih sorted).concat fun other member =>
      ordered other member call (List.mem_singleton_self call)

/-- A call is accepted only when its nonce is forgotten. -/
theorem Remembers.expired {start a : Authenticator} {calls accepted : List AgentCall}
    (memory : Remembers start calls accepted a) {call other : AgentCall}
    (ordered : ∀ earlier ∈ calls, earlier.tick ≤ call.tick)
    (ok : (a.authenticate call.request call.now call.tick).1.isOk) (member : other ∈ accepted)
    (same : other.request.nonce = call.request.nonce) :
    start.nonces.ttl ≤ call.tick - other.tick := by
  rcases authenticate_cases a call.request call.now call.tick with
    ⟨_, _, refused⟩ | ⟨nonce, checked, ⟨_, refused⟩ | ⟨new, ⟨_, refused⟩ | ⟨_, _⟩⟩⟩
  case inr.inr.inr =>
    have present := nonce_of_checkSignature checked
    have told : other.entry.1 = nonce := by rw [AgentCall.entry, same, present]; rfl
    by_contra alive
    refine new other.entry ?_ told
    rw [memory.alive call.tick ordered, List.mem_filter]
    exact ⟨List.mem_map_of_mem member, decide_eq_true (Nat.lt_of_not_le alive)⟩
  all_goals
    rw [refused] at ok
    cases ok

end Authenticator

end JobRelay
