import JobRelay.Digest.Hmac
import JobRelay.Text.Lowercase

/-! # Email hashes

Debt outlives an account under a one-way key: the digest of the email address, trimmed and in lower
case.
-/

namespace JobRelay

def emailKey (email : String) : String :=
  Sha256.hex (utf8 (Text.lowercase (Text.trim email)))

end JobRelay
