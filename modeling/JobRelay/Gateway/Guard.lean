import JobRelay.Gateway.Basic

/-! # Guards

What a request has to pass before it is served. Requests below `/agent/` are counted per caller;
agents sign their requests; the operator shows a token.
-/

namespace JobRelay.Gateway

/-- The last hop on the first forwarding line, if that line can be read. -/
def forwardedHop? (r : Request) : Option String := do
  let hops ← r.header? "X-Forwarded-For"
  let last := (hops.toList.reverse.takeWhile (· != ',')).reverse
  Text.nonBlank? (String.ofList last)

/-- Whom a request is counted for: the forwarding hop if it is trusted, or else the peer. -/
def callerKey (trustForwardedFor : Bool) (r : Request) : String :=
  let peer := (r.peer.map IpAddress.canonical).getD "unknown"
  if trustForwardedFor then (forwardedHop? r).getD peer else peer

def rejectionAnswer (rejection : AuthRejection) : Response :=
  .refusal rejection.statusCode
    (if rejection.statusCode = 429 then "Too many requests" else "Unauthorized")

def isAgentPath (path : String) : Bool :=
  (Text.dropPrefix? "/agent/".toList path.toList).isSome

/-- Counts a request below `/agent/` for its caller. -/
def limitRate (g : Gateway) (r : Request) (tick : Nat) : Option Response × Gateway :=
  if isAgentPath r.path then
    let caller := callerKey g.config.gateway.trustForwardedFor r
    match g.agents.tryAdmit caller tick with
    | (.ok (), agents) => (none, { g with agents })
    | (.error rejection, agents) => (some (rejectionAnswer rejection), { g with agents })
  else (none, g)

/-- What of a request its agent has signed. -/
def agentRequest (r : Request) : AgentRequest :=
  { method := r.method
    path := r.path
    body := r.body
    timestamp := r.header? timestampHeader
    nonce := r.header? nonceHeader
    signature := r.header? signatureHeader }

/-- Lets an agent's request in, or answers it. -/
def guardAgent (g : Gateway) (r : Request) (now : Instant) (tick : Nat) :
    Option Response × Gateway :=
  if !r.bodyFits then (some (.refusal 413 "Request body too large"), g)
  else
    match g.agents.authenticate (agentRequest r) now.seconds tick with
    | (.ok (), agents) => (none, { g with agents })
    | (.error rejection, agents) => (some (rejectionAnswer rejection), { g with agents })

def bearerToken? (r : Request) : Option String := do
  let raw ← r.header? "Authorization"
  let token ← Text.dropPrefix? "Bearer ".toList raw.toList
  if token.isEmpty then none else some (String.ofList token)

/-- Lets the operator's request in, or answers it. -/
def guardOperator (g : Gateway) (r : Request) : Option Response :=
  match g.operatorToken with
  | none => some (.refusal 403 "Operator access not configured")
  | some expected =>
    if bearerToken? r = some expected then none else some (.refusal 401 "Unauthorized")

end JobRelay.Gateway
