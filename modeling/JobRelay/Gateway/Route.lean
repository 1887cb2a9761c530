/-! # Routes

The places of the gateway, by path. Agents and the operator each have a group of their own. The
parts of a path that name a job or an alert are kept as they were sent.
-/

namespace JobRelay

inductive AgentRoute where
  | pendingJobs
  | claim
  | report (job : String)
  | complete (job : String)
  | takeOtp (job : String)
deriving DecidableEq, Repr

inductive OperatorRoute where
  | stuckJobs
  | settle (job : String)
  | renege (job : String)
  | forceStatus (job : String)
  | submitOtp (job : String)
  | history (job : String)
  | alerts
  | runAlerts
  | acknowledge (alert : String)
deriving DecidableEq, Repr

inductive Route where
  | health
  | paymentWebhook
  | agent (route : AgentRoute)
  | operator (route : OperatorRoute)
deriving DecidableEq, Repr

namespace AgentRoute

def method : AgentRoute → String
  | pendingJobs | takeOtp _ => "GET"
  | claim | report _ | complete _ => "POST"

/-- The route below `/agent/`. -/
def ofSegments? : List String → Option AgentRoute
  | ["jobs", "pending"] => some pendingJobs
  | ["jobs", "claim"] => some claim
  | ["jobs", job, place] =>
    if job.isEmpty then none
    else if place = "status" then some (report job)
    else if place = "complete" then some (complete job)
    else if place = "otp" then some (takeOtp job)
    else none
  | _ => none

end AgentRoute

namespace OperatorRoute

def method : OperatorRoute → String
  | stuckJobs | history _ | alerts => "GET"
  | settle _ | renege _ | forceStatus _ | submitOtp _ | runAlerts | acknowledge _ => "POST"

/-- The route below `/admin/`. -/
def ofSegments? : List String → Option OperatorRoute
  | ["jobs", "stuck"] => some stuckJobs
  | ["jobs", job, place] =>
    if job.isEmpty then none
    else if place = "settle" then some (settle job)
    else if place = "renege" then some (renege job)
    else if place = "force-status" then some (forceStatus job)
    else if place = "otp" then some (submitOtp job)
    else if place = "history" then some (history job)
    else none
  | ["alerts"] => some alerts
  | ["alerts", "run"] => some runAlerts
  | ["alerts", alert, "ack"] => if alert.isEmpty then none else some (acknowledge alert)
  | _ => none

end OperatorRoute

namespace Route

def method : Route → String
  | health => "GET"
  | paymentWebhook => "POST"
  | agent route => route.method
  | operator route => route.method

/-- Whether a route answers a method. A request for headers alone is answered like one for data. -/
def answers (route : Route) (method : String) : Bool :=
  route.method == method || (route.method == "GET" && method == "HEAD")

def ofPath? (path : String) : Option Route :=
  match (path.toList.splitOn '/').map String.ofList with
  | ["", "health"] => some health
  | ["", "webhooks", "payment"] => some paymentWebhook
  | "" :: "agent" :: segments => (AgentRoute.ofSegments? segments).map agent
  | "" :: "admin" :: segments => (OperatorRoute.ofSegments? segments).map operator
  | _ => none

end Route

/-- The path of an agents' route has one or two segments below `/agent/jobs`. -/
theorem Route.segments_of_agent {path : String} {route : AgentRoute}
    (found : ofPath? path = some (.agent route)) :
    ∃ rest, (path.toList.splitOn '/').map String.ofList = "" :: "agent" :: "jobs" :: rest ∧
      0 < rest.length ∧ rest.length ≤ 2 := by
  unfold ofPath? at found
  split at found
  · cases found
  · cases found
  · rename_i segments split
    rw [split]
    obtain ⟨_, below, _⟩ := Option.map_eq_some_iff.mp found
    unfold AgentRoute.ofSegments? at below
    split at below
    · exact ⟨_, rfl, by decide, by decide⟩
    · exact ⟨_, rfl, by decide, by decide⟩
    · exact ⟨_, rfl, by simp, by simp⟩
    · cases below
  · obtain ⟨_, _, operator⟩ := Option.map_eq_some_iff.mp found
    cases operator
  · cases found

/-- A text whose first segment is empty begins with a slash. -/
private theorem eq_slash_cons {chars : List Char} {segment : String} {segments : List String}
    (split : (chars.splitOn '/').map String.ofList = "" :: segment :: segments) :
    ∃ rest, chars = '/' :: rest ∧
      (rest.splitOn '/').map String.ofList = segment :: segments := by
  cases chars with
  | nil => simp at split
  | cons c rest =>
    rw [List.splitOn_cons_eq_if_modifyHead] at split
    split at split
    · rename_i slash
      obtain rfl := beq_iff_eq.mp slash
      exact ⟨rest, rfl, (List.cons.inj split).2⟩
    · cases parts : rest.splitOn '/' with
      | nil => exact absurd parts (List.splitOn_ne_nil _ _)
      | cons first others => simp [parts] at split

/-- No path of an agents' route ends in another one. -/
theorem Route.eq_nil_of_agent {path other : String} {route place : AgentRoute}
    (found : ofPath? path = some (.agent route)) (again : ofPath? other = some (.agent place))
    {front : List Char} (ends : path.toList = front ++ other.toList) : front = [] := by
  obtain ⟨rest, segments, _, short⟩ := segments_of_agent found
  obtain ⟨last, parts, more, _⟩ := segments_of_agent again
  obtain ⟨chars, slash, parts⟩ := eq_slash_cons parts
  rw [ends, slash, List.splitOn_append_cons_self, List.map_append, parts] at segments
  have size := congrArg List.length segments
  match before : front.splitOn '/' with
  | [] => exact absurd before (List.splitOn_ne_nil _ _)
  | [only] =>
    rw [before] at segments
    obtain ⟨rfl, _⟩ : only = [] ∧ last = rest := by simpa using segments
    have joined : List.intercalate ['/'] (front.splitOn '/') = front :=
      List.intercalate_splitOn '/'
    rw [← joined, before]
    rfl
  | [_, _] => simp [before] at segments
  | _ :: _ :: _ :: _ =>
    rw [before] at size
    simp only [List.map_cons, List.length_append, List.length_cons, List.length_map] at size
    omega

end JobRelay
