import JobRelay.Digest.Hmac
import JobRelay.Text.Digits

/-! # Request signatures

An agent signs the time, a nonce, the method in upper case, the path and the digest of the body
under the shared secret. The signature is written in lower-case hexadecimal digits.
-/

namespace JobRelay

def bodyDigest (body : List UInt8) : String :=
  Sha256.hex body

def signedMessage (timestamp nonce method path : String) (body : List UInt8) : List UInt8 :=
  utf8 timestamp ++ utf8 nonce ++ utf8 (String.ofList (method.toList.map Char.toUpper)) ++
    utf8 path ++ utf8 (bodyDigest body)

def requestSignature (secret : List UInt8) (timestamp nonce method path : String)
    (body : List UInt8) : String :=
  Hmac.hex secret (signedMessage timestamp nonce method path body)

/-- The header values that go with a signed request. -/
structure SignedHeaders where
  timestamp : String
  nonce : String
  signature : String
deriving DecidableEq, Repr

/-- Signs a request at a time in seconds since 1970. -/
def signAt (secret method path : String) (body : List UInt8) (timestamp : Int) (nonce : String) :
    SignedHeaders :=
  { timestamp := toString timestamp
    nonce
    signature := requestSignature (utf8 secret) (toString timestamp) nonce method path body }

end JobRelay
