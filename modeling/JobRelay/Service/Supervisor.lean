/-! # Supervision

A component that ends is started again after a pause. The pause doubles with every run that fails,
up to a limit, and starts over after a run that finishes. When more runs have ended than restarts
are allowed, the component is given up; with no number of restarts named it never is.
-/

namespace JobRelay

/-- How a run of a component ended. -/
inductive RunEnd where
  | finished
  | failed
deriving DecidableEq, Repr

/-- How a component is started again. Pauses are in seconds. -/
structure RestartPolicy where
  initialPause : Nat
  maxPause : Nat
  /-- How often it is started again; zero stands for no limit. -/
  maxRestarts : Nat
deriving DecidableEq, Repr

namespace RestartPolicy

/-- The first pause is at least a second. -/
def firstPause (p : RestartPolicy) : Nat := max p.initialPause 1

/-- No pause is longer than this. -/
def longestPause (p : RestartPolicy) : Nat := max p.maxPause p.firstPause

/-- The greatest number of seconds that can be waited. -/
def pauseLimit : Nat := 18446744073709551615

/-- The pause that follows the next failure when a pause has been waited. -/
def lengthen (p : RestartPolicy) (pause : Nat) : Nat :=
  min (min (2 * pause) pauseLimit) p.longestPause

/-- The greatest count of ended runs that is kept. -/
def countLimit : Nat := 4294967295

/-- What a supervisor keeps between runs. -/
structure Progress where
  /-- The pause that follows the next failure. -/
  pause : Nat
  /-- How many runs have ended. -/
  ended : Nat
deriving DecidableEq, Repr

/-- Before the first run. -/
def start (p : RestartPolicy) : Progress := { pause := p.firstPause, ended := 0 }

/-- What follows the end of a run: a pause and the progress after it, or nothing if the component
is given up. -/
def afterRun (p : RestartPolicy) (before : Progress) (how : RunEnd) : Option (Nat × Progress) :=
  let pause :=
    match how with
    | .finished => p.firstPause
    | .failed => before.pause
  let ended := min (before.ended + 1) countLimit
  if 0 < p.maxRestarts ∧ p.maxRestarts < ended then none
  else some (pause, { pause := p.lengthen pause, ended })

/-- The pauses after runs that end one after another, and whether the component is given up. -/
def pausesFrom (p : RestartPolicy) (before : Progress) : List RunEnd → List Nat × Bool
  | [] => ([], false)
  | how :: later =>
    match p.afterRun before how with
    | none => ([], true)
    | some (pause, progress) =>
      let (pauses, givenUp) := p.pausesFrom progress later
      (pause :: pauses, givenUp)

/-- The pauses of a component whose runs end in these ways. -/
def pauses (p : RestartPolicy) (ends : List RunEnd) : List Nat × Bool :=
  p.pausesFrom p.start ends

/-- Each time with all pauses before it: when each run begins if runs take no time. -/
def startsFrom (time : Nat) : List Nat → List Nat
  | [] => [time]
  | pause :: pauses => time :: startsFrom (time + pause) pauses

/-- When each run begins, and whether the component is given up. -/
def starts (p : RestartPolicy) (ends : List RunEnd) : List Nat × Bool :=
  let (pauses, givenUp) := p.pauses ends
  (startsFrom 0 pauses, givenUp)

end RestartPolicy

end JobRelay
