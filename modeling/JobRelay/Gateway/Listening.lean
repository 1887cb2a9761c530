import JobRelay.Gateway.Basic

/-! # Listening

Where the gateway listens, and what it says when it does. An address that others can reach is
refused unless the settings allow it.
-/

namespace JobRelay

/-- The hosts that only this machine reaches. -/
def localHosts : List String := ["127.0.0.1", "localhost", "::1", "[::1]", "0:0:0:0:0:0:0:1"]

/-- Whether others can reach a host. -/
def isPublicHost (host : String) : Bool := !localHosts.contains host

/-- Why the gateway does not listen. -/
inductive BindFault where
  | publicHost (host : String)
  | noAddress
  /-- The address belongs to another machine. -/
  | foreignAddress
deriving DecidableEq, Repr

/-- The report of a fault, outermost first. -/
def BindFault.chain : BindFault → List String
  | publicHost host =>
    ["Refusing to bind to " ++ host ++ ": the agent and admin API would be exposed.\nFix: use " ++
      "host = \"127.0.0.1\" (default) behind a reverse proxy, or set\n" ++
      "[gateway] allow_public_bind = true in config.toml."]
  | noAddress => ["parse gateway bind address", "invalid socket address syntax"]
  | foreignAddress => ["bind gateway socket", "Cannot assign requested address (os error 99)"]

/-- The address that the settings name, which has to be one that every machine has. -/
def GatewayConfig.bindAddress (c : GatewayConfig) : Except BindFault IpAddress :=
  if isPublicHost c.host && !c.allowPublicBind then .error (.publicHost c.host)
  else
    match IpAddress.ofSocket? (c.host ++ ":" ++ toString c.port) with
    | none => .error .noAddress
    | some address => if address.isOwn then .ok address else .error .foreignAddress

/-- What the gateway says when it listens at a host and a port. -/
def Gateway.banner (g : Gateway) (host port : String) : List String :=
  ["Gateway listening on " ++ host ++ ":" ++ port, "  GET  /health",
    if g.agents.isConfigured then "  /agent/*  HMAC-signed agent API"
    else "  /agent/*  disabled (no [agent] shared_secret)",
    if g.operatorToken.isSome then "  /admin/*  operator API (bearer token)"
    else "  /admin/*  disabled (no [gateway] operator_token)"] ++
  (if g.webhookSecret.isSome then ["  POST /webhooks/payment"] else []) ++
  (g.invoices.map fun provider => "  Invoices via " ++ provider.name).toList

end JobRelay
