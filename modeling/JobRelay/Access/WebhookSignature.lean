import JobRelay.Digest.Hmac
import JobRelay.Text.Blank

/-! # Webhook signatures

A payment event is signed with a secret of its own: the header is `sha256=` and the hexadecimal
code of the body. Blanks around the header do not count.
-/

namespace JobRelay

/-- The mark in front of the code. -/
def webhookMark : List Char := "sha256=".toList

/-- Whether a header signs a body under a secret that is not empty. -/
def webhookSignatureHolds (secret : String) (body : List UInt8) (header : String) : Bool :=
  if secret.isEmpty then false
  else
    match Text.dropPrefix? webhookMark (Text.trim header).toList with
    | none => false
    | some digits =>
      match Text.Hex.decode? digits with
      | none => false
      | some code => code == Hmac.code (utf8 secret) body

end JobRelay
