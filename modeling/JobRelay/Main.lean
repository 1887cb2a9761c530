import JobRelay.Command.Run
import JobRelay.Config.Load
import Std.Time.DateTime.Timestamp

/-! # The program

Reads the settings, runs one command on an empty book, prints what it says and tells by the exit
code whether it failed.
-/

open JobRelay

/-- The variables of the environment that settings are taken from. -/
def settingNames : List String :=
  ["SUBRELAY_GATEWAY_PORT", "PORT", "SUBRELAY_GATEWAY_HOST", "HOST", "SUBRELAY_WORKSPACE",
    "SUBRELAY_OPERATOR_TOKEN", "SUBRELAY_AGENT_SECRET", "SUBRELAY_WEBHOOK_SECRET",
    "SUBRELAY_BTCPAY_API_KEY"]

def readEnvironment : IO Environment := do
  let found ← settingNames.filterMapM fun name => do
    return (← IO.getEnv name).map fun value => (name, value)
  return fun name => (found.find? (·.1 == name)).map (·.2)

/-- The text of a file, if it is there. -/
def readFile? (path : String) : IO (Option String) := do
  try
    return some (← IO.FS.readFile path)
  catch _ =>
    return none

/-- Prints a report, each reason on a line of its own. -/
def printReport (chain : List String) : IO Unit :=
  for text in chain do IO.eprintln text

def currentInstant : IO Instant := do
  return .ofMillis (← Std.Time.Timestamp.now).toMillisecondsSinceUnixEpoch.val

def main (args : List String) : IO UInt32 := do
  match Command.ofWords args with
  | .error .helpAsked | .error .versionAsked => return 0
  | .error fault =>
    IO.eprintln fault.kind
    return 2
  | .ok command =>
    let root := Installation.rootIn ((← IO.getEnv "HOME").getD "")
    let file ← readFile? (joinPath root "config.toml")
    match Installation.load root file (← readEnvironment) with
    | .error fault =>
      printReport fault.chain
      return 1
    | .ok installation =>
      let nonce := Text.Hex.encode (← IO.getRandomBytes 16).toList
      let result := command.run installation.config .empty (← currentInstant) nonce
      IO.print result.output
      match result.failure with
      | none => return 0
      | some chain =>
        printReport chain
        return 1
