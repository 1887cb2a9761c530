import JobRelay.Proofs.Access.RateLog
import JobRelay.Proofs.Gateway.Openings

/-! # Requests that are counted

Every request below `/agent/` is put to the rate limiter once, under the key of its caller and
before anything else. Nothing that follows touches the limiter or the settings. So the requests that
go past the rate limit are those that the limiter admits, one after the other.
-/

namespace JobRelay

private theorem Authenticator.limiter_authenticate (a : Authenticator) (request : AgentRequest)
    (now : Int) (tick : Nat) : (a.authenticate request now tick).2.limiter = a.limiter := by
  rcases a.authenticate_cases request now tick with
    ⟨_, _, same⟩ | ⟨_, _, ⟨_, same⟩ | ⟨_, ⟨_, same⟩ | ⟨_, same⟩⟩⟩ <;> rw [same]

namespace RateLimiter

/-- Callers that are all different are all admitted. -/
private theorem admittedByLog_of_nodup {start : RateLimiter} (room : 0 < start.maxPerWindow)
    {calls : List RateCall} (distinct : (calls.map (·.caller)).Nodup) :
    start.admittedByLog calls = calls := by
  induction calls using List.reverseRecOn with
  | nil => rfl
  | append_singleton calls call ih =>
    rw [List.map_append, List.map_singleton] at distinct
    obtain ⟨earlier, _, apart⟩ := List.nodup_append.mp distinct
    have none : recentCalls start.window call.caller call.tick calls = [] := by
      rw [recentCalls, List.filter_eq_nil_iff]
      intro other member counts
      exact apart _ (List.mem_map_of_mem member) _ (List.mem_singleton_self _)
        (of_decide_eq_true counts).1
    have verdict : start.logVerdict calls call := by
      rw [logVerdict, none]
      exact decide_eq_true room
    rw [admittedByLog_concat, ih earlier, if_pos verdict]

end RateLimiter

namespace Gateway

open RateLimiter

variable {g : Gateway}

/-- What a gateway has become of which the rate limit is as it was. -/
structure KeepsLimit (g after : Gateway) : Prop where
  config : after.config = g.config
  limiter : after.agents.limiter = g.agents.limiter

private theorem KeepsLimit.refl (g : Gateway) : KeepsLimit g g := ⟨rfl, rfl⟩

private theorem KeepsSetup.keepsLimit {after : Gateway} (keeps : KeepsSetup g after) :
    KeepsLimit g after :=
  ⟨keeps.config, by rw [keeps.agents]⟩

private theorem KeepsLimit.trans {middle after : Gateway} (first : KeepsLimit g middle)
    (second : KeepsLimit middle after) : KeepsLimit g after :=
  ⟨second.config.trans first.config, second.limiter.trans first.limiter⟩

private theorem keepsLimit_guardAgent (g : Gateway) (r : Request) (now : Instant) (tick : Nat) :
    KeepsLimit g (g.guardAgent r now tick).2 := by
  have kept := g.agents.limiter_authenticate (agentRequest r) now.seconds tick
  unfold guardAgent
  split
  · exact .refl g
  · split
    · rename_i agents same
      rw [same] at kept
      exact ⟨rfl, kept⟩
    · rename_i rejection agents same
      rw [same] at kept
      exact ⟨rfl, kept⟩

private theorem keepsLimit_guarded (g : Gateway) (route : Route) (r : Request) (now : Instant)
    (tick : Nat) : KeepsLimit g (g.guarded route r now tick).2 := by
  unfold guarded
  split
  · exact (keepsSetup_serve ..).keepsLimit
  · exact (keepsSetup_serve ..).keepsLimit
  · have guards := keepsLimit_guardAgent g r now tick
    split
    · rename_i response after same
      rw [same] at guards
      exact guards
    · rename_i after same
      rw [same] at guards
      exact guards.trans (keepsSetup_serve ..).keepsLimit
  · split
    · exact .refl g
    · exact (keepsSetup_serve ..).keepsLimit

/-- After a request has been counted, the rate limit stays as it is. -/
private theorem keepsLimit_handle (g : Gateway) (r : Request) (now : Instant) (tick : Nat) :
    KeepsLimit (g.limitRate r tick).2 (g.handle r now tick).2 := by
  rw [handle, answer]
  cases g.limitRate r tick with
  | mk stop after =>
    cases stop with
    | some response => exact .refl after
    | none =>
      dsimp only
      split
      · exact .refl after
      · split
        · exact .refl after
        · exact keepsLimit_guarded ..

/-- A request below `/agent/` is counted under the key of its caller, and goes on if that is
admitted. -/
theorem limitRate_eq {r : Request} (below : isAgentPath r.path) (tick : Nat) :
    (g.limitRate r tick).1.isNone =
        (g.agents.limiter.tryAdmit (callerKey g.config.gateway.trustForwardedFor r) tick).1 ∧
      (g.limitRate r tick).2 = g.withLimiter
        (g.agents.limiter.tryAdmit (callerKey g.config.gateway.trustForwardedFor r) tick).2 := by
  rw [limitRate, if_pos below]
  dsimp only [Authenticator.tryAdmit]
  cases g.agents.limiter.tryAdmit (callerKey g.config.gateway.trustForwardedFor r) tick with
  | mk admitted limiter => cases admitted <;> exact ⟨rfl, rfl⟩

private theorem limitRate_elsewhere {r : Request} (elsewhere : isAgentPath r.path = false)
    (tick : Nat) : g.limitRate r tick = (none, g) := by
  rw [limitRate, elsewhere]
  rfl

/-! ## One request after the other -/

/-- The requests below `/agent/` that go past the rate limit, of requests that are handled one after
the other. -/
def admitted (g : Gateway) : List Arrival → List Arrival
  | [] => []
  | arrival :: rest =>
    let later := (g.handle arrival.request arrival.now arrival.tick).2.admitted rest
    if isAgentPath arrival.request.path && (g.limitRate arrival.request arrival.tick).1.isNone then
      arrival :: later
    else later

/-- A request as the rate limiter sees it. -/
def rateCall (trustForwardedFor : Bool) (arrival : Arrival) : RateCall :=
  ⟨callerKey trustForwardedFor arrival.request, arrival.tick⟩

/-- The requests below `/agent/` as the rate limiter sees them. -/
def rateCalls (trustForwardedFor : Bool) (arrivals : List Arrival) : List RateCall :=
  (arrivals.filter fun arrival => isAgentPath arrival.request.path).map (rateCall trustForwardedFor)

/-- The requests that go past the rate limit are those that the limiter admits. -/
theorem map_admitted (g : Gateway) (arrivals : List Arrival) :
    (g.admitted arrivals).map (rateCall g.config.gateway.trustForwardedFor) =
      (g.agents.limiter.receive tryAdmit
        (rateCalls g.config.gateway.trustForwardedFor arrivals)).1 := by
  induction arrivals generalizing g with
  | nil => rfl
  | cons arrival rest ih =>
    have keeps := keepsLimit_handle g arrival.request arrival.now arrival.tick
    have later := ih (g.handle arrival.request arrival.now arrival.tick).2
    rw [keeps.config, keeps.limiter] at later
    cases below : isAgentPath arrival.request.path with
    | false =>
      rw [limitRate_elsewhere below] at later
      simpa [admitted, rateCalls, below] using later
    | true =>
      obtain ⟨goes, counted⟩ := limitRate_eq (g := g) below arrival.tick
      have limiter := congrArg (·.agents.limiter) counted
      have config := congrArg (·.config) counted
      dsimp only [withLimiter] at limiter config
      rw [limiter, config] at later
      have calls : rateCalls g.config.gateway.trustForwardedFor (arrival :: rest) =
          rateCall g.config.gateway.trustForwardedFor arrival ::
            rateCalls g.config.gateway.trustForwardedFor rest := by
        rw [rateCalls, List.filter_cons, if_pos below]
        rfl
      rw [calls, admitted, below, Bool.true_and, goes, apply_ite (List.map _), List.map_cons, later]
      rfl

theorem admitted_sublist (g : Gateway) (arrivals : List Arrival) :
    (g.admitted arrivals).Sublist arrivals := by
  induction arrivals generalizing g with
  | nil => exact .slnil
  | cons arrival rest ih =>
    unfold admitted
    dsimp only
    split
    · exact (ih _).cons_cons arrival
    · exact (ih _).cons arrival

private theorem pairwise_rateCalls {trust : Bool} {arrivals : List Arrival}
    (sorted : arrivals.Pairwise (·.tick ≤ ·.tick)) :
    (rateCalls trust arrivals).Pairwise (·.tick ≤ ·.tick) :=
  List.pairwise_map.mpr (sorted.filter _)

/-- From an empty limiter on, the log of the admitted requests decides. -/
private theorem map_admitted_eq_log (empty : g.agents.limiter.hits = []) {arrivals : List Arrival}
    (sorted : arrivals.Pairwise (·.tick ≤ ·.tick)) :
    (g.admitted arrivals).map (rateCall g.config.gateway.trustForwardedFor) =
      g.agents.limiter.admittedByLog (rateCalls g.config.gateway.trustForwardedFor arrivals) :=
  (map_admitted g arrivals).trans (exact_tryAdmit.receive empty (pairwise_rateCalls sorted)).1

/-- Of the requests that count for one caller, no window holds more admitted ones than the greatest
number. -/
theorem length_admitted_le (empty : g.agents.limiter.hits = []) {arrivals own : List Arrival}
    (sorted : arrivals.Pairwise (·.tick ≤ ·.tick)) (chosen : own.Sublist (g.admitted arrivals))
    {caller : String} {first : Nat}
    (counted : ∀ arrival ∈ own,
      callerKey g.config.gateway.trustForwardedFor arrival.request = caller ∧
        first ≤ arrival.tick ∧ arrival.tick < first + g.agents.limiter.window) :
    own.length ≤ g.agents.limiter.maxPerWindow := by
  let call := rateCall g.config.gateway.trustForwardedFor
  let inWindow (other : RateCall) : Bool :=
    other.caller = caller ∧ first ≤ other.tick ∧ other.tick < first + g.agents.limiter.window
  have all : (own.map call).filter inWindow = own.map call := by
    rw [List.filter_eq_self]
    intro other member
    obtain ⟨arrival, present, rfl⟩ := List.mem_map.mp member
    exact decide_eq_true (counted arrival present)
  have fewer := ((chosen.map call).filter inWindow).length_le
  rw [all, List.length_map, map_admitted_eq_log empty sorted] at fewer
  exact fewer.trans (length_within_le (pairwise_rateCalls sorted) caller first)

/-- Requests that all count for different callers are all admitted. -/
theorem admitted_of_distinct (empty : g.agents.limiter.hits = [])
    (room : 0 < g.agents.limiter.maxPerWindow) {arrivals : List Arrival}
    (sorted : arrivals.Pairwise (·.tick ≤ ·.tick))
    (below : ∀ arrival ∈ arrivals, isAgentPath arrival.request.path)
    (distinct : (arrivals.map fun arrival =>
      callerKey g.config.gateway.trustForwardedFor arrival.request).Nodup) :
    g.admitted arrivals = arrivals := by
  have calls : rateCalls g.config.gateway.trustForwardedFor arrivals =
      arrivals.map (rateCall g.config.gateway.trustForwardedFor) := by
    rw [rateCalls, List.filter_eq_self.mpr below]
  have log := map_admitted_eq_log empty sorted
  rw [calls, admittedByLog_of_nodup room (by rw [List.map_map]; exact distinct)] at log
  have size := congrArg List.length log
  rw [List.length_map, List.length_map] at size
  exact (admitted_sublist g arrivals).eq_of_length size

end Gateway

end JobRelay
