import JobRelay.Digest.Sha256
import JobRelay.Text.Hex
import JobRelay.Text.Utf8

/-! # Keyed digests

HMAC over SHA-256: a key longer than a block is replaced by its digest, a shorter one is filled
with zeros, and the message is digested behind two masked forms of it.
-/

namespace JobRelay

def Sha256.hex (message : List UInt8) : String :=
  Text.Hex.encode (Sha256.digest message)

namespace Hmac

/-- The key on the width of a block. -/
def blockKey (key : List UInt8) : List UInt8 :=
  let short := if 64 < key.length then Sha256.digest key else key
  short ++ List.replicate (64 - short.length) 0

def code (key message : List UInt8) : List UInt8 :=
  let key := blockKey key
  let inner := Sha256.digest (key.map (· ^^^ 0x36) ++ message)
  Sha256.digest (key.map (· ^^^ 0x5c) ++ inner)

@[simp] theorem length_code (key message : List UInt8) : (code key message).length = 32 :=
  Sha256.length_digest _

def hex (key message : List UInt8) : String :=
  Text.Hex.encode (code key message)

end Hmac

end JobRelay
