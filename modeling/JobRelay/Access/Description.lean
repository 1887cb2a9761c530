import JobRelay.Access.Authenticator

/-! # Descriptions for logs

How the nonce memory and the authenticator describe themselves, without secrets or contents.
-/

namespace JobRelay

/-- Milliseconds as a length of time: in seconds with the decimals needed, below a second in
milliseconds. -/
def describeMillis (millis : Nat) : String :=
  if millis = 0 then "0ns"
  else if millis < 1000 then toString millis ++ "ms"
  else
    let fraction := ((Text.padded 3 (millis % 1000)).reverse.dropWhile (· == '0')).reverse
    toString (millis / 1000) ++
      (if fraction.isEmpty then "" else "." ++ String.ofList fraction) ++ "s"

def NonceMemory.describe (ttlMillis capacity : Nat) : String :=
  "ReplayCache \x7b ttl: " ++ describeMillis ttlMillis ++ ", capacity: " ++ toString capacity ++
    ", .. \x7d"

def Authenticator.describe (a : Authenticator) : String :=
  "AgentAuthenticator \x7b configured: " ++ (if a.isConfigured then "true" else "false") ++
    ", timestamp_window_secs: " ++ toString a.windowSecs ++ ", .. \x7d"

end JobRelay
