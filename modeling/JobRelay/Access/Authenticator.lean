import JobRelay.Access.NonceMemory
import JobRelay.Access.RateLimiter
import JobRelay.Access.Signature

/-! # Admitting agents

An agent's request passes the rate limit, carries three headers, is recent, is signed with the
shared secret and brings a new nonce. The checks run in this order, and the nonce is spent only
when all others have passed.
-/

namespace JobRelay

/-- Why a request of an agent is refused. -/
inductive AuthRejection where
  | rateLimited
  | notConfigured
  | missingHeader (name : String)
  | invalidTimestamp
  | timestampOutOfWindow
  | signatureLength
  | signatureMismatch
  | replayed
  | nonceCapacity
deriving DecidableEq, Repr

namespace AuthRejection

def message : AuthRejection → String
  | rateLimited => "rate limit exceeded"
  | notConfigured => "agent secret not configured"
  | missingHeader name => "missing header " ++ name
  | invalidTimestamp => "timestamp is not an integer"
  | timestampOutOfWindow => "timestamp outside the accepted window"
  | signatureLength => "signature length mismatch"
  | signatureMismatch => "signature mismatch"
  | replayed => "nonce already used"
  | nonceCapacity => "nonce cache at capacity"

/-- The word that is logged for a refusal. -/
def reason : AuthRejection → String
  | rateLimited => "rate_limited"
  | notConfigured => "agent_secret_not_configured"
  | missingHeader _ => "missing_header"
  | invalidTimestamp => "invalid_timestamp"
  | timestampOutOfWindow => "timestamp_out_of_window"
  | signatureLength => "signature_length_mismatch"
  | signatureMismatch => "signature_mismatch"
  | replayed => "nonce_replayed"
  | nonceCapacity => "nonce_capacity_exhausted"

def statusCode : AuthRejection → Nat
  | rateLimited => 429
  | _ => 401

end AuthRejection

def timestampHeader : String := "X-Agent-Timestamp"

def nonceHeader : String := "X-Agent-Nonce"

def signatureHeader : String := "X-Agent-Signature"

/-- The parts of a request that are checked. -/
structure AgentRequest where
  method : String
  /-- The path without its query. -/
  path : String
  body : List UInt8
  timestamp : Option String
  nonce : Option String
  signature : Option String

/-- Who checks the requests of agents. -/
structure Authenticator where
  secret : Option (List UInt8)
  windowSecs : Nat
  nonces : NonceMemory
  limiter : RateLimiter
deriving DecidableEq, Repr

namespace Authenticator

/-- An authenticator; an empty secret is none. -/
def create (secret : Option String) (windowSecs : Nat) (nonces : NonceMemory)
    (limiter : RateLimiter) : Authenticator :=
  { secret := (secret.filter fun s => !s.isEmpty).map utf8, windowSecs, nonces, limiter }

/-- Whether agents can be checked at all. -/
def isConfigured (a : Authenticator) : Bool := a.secret.isSome

/-- A signature has to agree in length, then in content. -/
def compareSignatures (expected supplied : String) : Except AuthRejection Unit :=
  if (utf8 expected).length ≠ (utf8 supplied).length then .error .signatureLength
  else if expected ≠ supplied then .error .signatureMismatch
  else .ok ()

/-- A header that has to be there. -/
def requireHeader (name : String) : Option String → Except AuthRejection String
  | some value => .ok value
  | none => .error (.missingHeader name)

/-- The checks that come before the nonce: headers, time and signature. The nonce is the result. -/
def checkSignature (a : Authenticator) (r : AgentRequest) (now : Int) :
    Except AuthRejection String :=
  match a.secret with
  | none => .error .notConfigured
  | some secret => do
    let timestamp ← requireHeader timestampHeader r.timestamp
    let nonce ← requireHeader nonceHeader (r.nonce.filter fun n => !n.isEmpty)
    let signature ← requireHeader signatureHeader r.signature
    match Text.int64? timestamp with
    | none => throw .invalidTimestamp
    | some sentAt =>
      if a.windowSecs < (now - sentAt).natAbs then throw .timestampOutOfWindow
      compareSignatures (requestSignature secret timestamp nonce r.method r.path r.body) signature
      return nonce

/-- All checks but the rate limit, at a time in seconds and a tick. -/
def authenticate (a : Authenticator) (r : AgentRequest) (now : Int) (tick : Nat) :
    Except AuthRejection Unit × Authenticator :=
  match a.checkSignature r now with
  | .error rejection => (.error rejection, a)
  | .ok nonce =>
    let (verdict, nonces) := a.nonces.present nonce tick
    let a := { a with nonces }
    match verdict with
    | .fresh => (.ok (), a)
    | .replayed => (.error .replayed, a)
    | .capacityExhausted => (.error .nonceCapacity, a)

/-- The rate limit alone. -/
def tryAdmit (a : Authenticator) (caller : String) (tick : Nat) :
    Except AuthRejection Unit × Authenticator :=
  let (admitted, limiter) := a.limiter.tryAdmit caller tick
  (if admitted then .ok () else .error .rateLimited, { a with limiter })

/-- All checks. -/
def verify (a : Authenticator) (caller : String) (r : AgentRequest) (now : Int) (tick : Nat) :
    Except AuthRejection Unit × Authenticator :=
  match a.tryAdmit caller tick with
  | (.error rejection, a) => (.error rejection, a)
  | (.ok (), a) => a.authenticate r now tick

end Authenticator

end JobRelay
