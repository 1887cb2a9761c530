/-! # Rate limiting

Each caller may make so many requests within a sliding window. Only admitted requests count. Times
are ticks of a clock that never needs to be read as a date; a time later than the present counts as
the present.
-/

namespace JobRelay

/-- The admitted requests of each caller, the oldest first. -/
structure RateLimiter where
  /-- How many requests are admitted in a window. -/
  maxPerWindow : Nat
  /-- The length of the window in ticks. -/
  window : Nat
  hits : List (String × List Nat) := []
deriving DecidableEq, Repr

namespace RateLimiter

/-- Callers without requests in the window are forgotten once more callers are known than this. -/
def sweepThreshold : Nat := 4096

/-- Whether a request at `hit` is in the window that ends now. -/
def isLive (l : RateLimiter) (now hit : Nat) : Bool :=
  now - hit < l.window

def hitsOf (l : RateLimiter) (caller : String) : List Nat :=
  ((l.hits.find? (·.1 == caller)).map (·.2)).getD []

/-- The callers kept: all of them, or those whose last request is in the window. -/
def sweep (l : RateLimiter) (now : Nat) : RateLimiter :=
  if sweepThreshold < l.hits.length then
    { l with hits := l.hits.filter fun entry => entry.2.getLast?.any (l.isLive now) }
  else l

/-- Replaces the requests known of a caller. -/
def put (l : RateLimiter) (caller : String) (times : List Nat) : RateLimiter :=
  if l.hits.any (·.1 == caller) then
    { l with hits := l.hits.map fun entry => if entry.1 = caller then (caller, times) else entry }
  else { l with hits := l.hits ++ [(caller, times)] }

/-- Decides about a request of a caller; an admitted one is recorded. -/
def tryAdmit (l : RateLimiter) (caller : String) (now : Nat) : Bool × RateLimiter :=
  let l := l.sweep now
  let live := (l.hitsOf caller).dropWhile fun hit => !l.isLive now hit
  if live.length < l.maxPerWindow then (true, l.put caller (live ++ [now]))
  else (false, l.put caller live)

/-- The number of requests of a caller that count now. -/
def count (l : RateLimiter) (caller : String) (now : Nat) : Nat :=
  ((l.hitsOf caller).filter (l.isLive now)).length

end RateLimiter

end JobRelay
