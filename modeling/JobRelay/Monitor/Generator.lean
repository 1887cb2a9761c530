import JobRelay.Monitor.Alerts

/-! # The alert generator

Runs the checks at once and then at a fixed interval. When time has jumped over several runs they
are made up for at the new time, one after another. A run that breaks off is the last one.
-/

namespace JobRelay

def minInterval : Nat := 10

def MonitorConfig.intervalMillis (c : MonitorConfig) : Nat :=
  max c.intervalSecs minInterval * 1000

/-- How many runs are due up to a time since the first one. -/
def MonitorConfig.runsDue (c : MonitorConfig) (elapsedMillis : Nat) : Nat :=
  elapsedMillis / c.intervalMillis + 1

namespace Book

/-- Runs the checks some times, unless a run breaks off; tells whether none did. -/
def runChecksTimes (book : Book) (config : MonitorConfig) (now : Instant) : Nat → Bool × Book
  | 0 => (true, book)
  | count + 1 =>
    match book.runAlertChecks config now with
    | (none, book) => (false, book)
    | (some _, book) => book.runChecksTimes config now count

/-- The checks that become due between two times after the first run. A second run at one time adds
nothing to the first. -/
def catchUp (book : Book) (config : MonitorConfig) (done due : Nat) (now : Instant) : Bool × Book :=
  book.runChecksTimes config now (min (due - done) 2)

end Book

end JobRelay
