import JobRelay.Gateway.AgentDesk
import JobRelay.Gateway.Guard
import JobRelay.Gateway.PaymentEvents

/-! # Answering a request

One request is answered with one response and leaves a gateway behind. The order of the checks is
fixed: rate limit, declared length, route, guard, method, and then what the route itself checks.
-/

namespace JobRelay.Gateway

def version : String := "0.1.0"

def healthAnswer : Response :=
  .ok (.record [("status", .text "ok"), ("version", .text version)])

/-- Serves a request that its guard has let in. -/
def serve (g : Gateway) (route : Route) (r : Request) (now : Instant) : Response × Gateway :=
  if !route.answers r.method then (.bare 405, g)
  else
    match route with
    | .health => (healthAnswer, g)
    | .paymentWebhook => g.takeEvent r now
    | .agent route => g.serveAgent route r now
    | .operator route => g.serveOperator route r now

/-- Lets a request through the guard of its route and serves it. -/
def guarded (g : Gateway) (route : Route) (r : Request) (now : Instant) (tick : Nat) :
    Response × Gateway :=
  match route with
  | .health | .paymentWebhook => g.serve route r now
  | .agent _ =>
    match g.guardAgent r now tick with
    | (some response, g) => (response, g)
    | (none, g) => g.serve route r now
  | .operator _ =>
    match g.guardOperator r with
    | some response => (response, g)
    | none => g.serve route r now

/-- Counts a request, finds its route and answers it. -/
def answer (g : Gateway) (r : Request) (now : Instant) (tick : Nat) : Response × Gateway :=
  match g.limitRate r tick with
  | (some response, g) => (response, g)
  | (none, g) =>
    if r.declaresTooMuch then (.bare 413, g)
    else
      match Route.ofPath? r.path with
      | none => (.bare 404, g)
      | some route => g.guarded route r now tick

/-- Answers a request at a time and a tick. A request for headers alone gets no data. -/
def handle (g : Gateway) (r : Request) (now : Instant) (tick : Nat) : Response × Gateway :=
  let (response, g) := g.answer r now tick
  (if r.method = "HEAD" then .bare response.status else response, g)

end JobRelay.Gateway
