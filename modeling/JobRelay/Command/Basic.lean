import JobRelay.Command.Grammar
import JobRelay.Data.Datum

/-! # Commands

What the command line asks for: to run the service or the gateway, to inspect and repair jobs, to
run and list alerts, and to sign a request.
-/

namespace JobRelay

inductive Command where
  | serve
  | gateway (port : Option Nat) (host : Option String)
  | stuckJobs
  | settle (id : String)
  | renege (id : String)
  | forceStatus (id status reason : String)
  | history (id : String)
  | runAlerts
  | listAlerts
  | acknowledge (id : Int)
  | sign (method path body : String)
deriving DecidableEq, Repr

namespace Command

/-- The port that a text names. -/
def port? (text : String) : Option Nat :=
  ((Text.int64? text).filter fun n => 0 ≤ n && n < 65536).map Int.toNat

/-- The words that name a command. -/
def words : Command → String
  | serve => "serve"
  | gateway _ _ => "gateway"
  | stuckJobs => "jobs stuck"
  | settle _ => "jobs settle"
  | renege _ => "jobs renege"
  | forceStatus _ _ _ => "jobs force-status"
  | history _ => "jobs history"
  | runAlerts => "alerts run"
  | listAlerts => "alerts list"
  | acknowledge _ => "alerts ack"
  | sign _ _ _ => "sign"

/-- The arguments of a command by name. -/
def arguments : Command → List (String × Datum)
  | serve | stuckJobs | runAlerts | listAlerts => []
  | gateway port host =>
    [("port", .ofWhole? (port.map Int.ofNat)), ("host", .ofText? host)]
  | settle id | renege id | history id => [("id", .text id)]
  | forceStatus id status reason =>
    [("id", .text id), ("status", .text status), ("reason", .text reason)]
  | acknowledge id => [("id", .whole id)]
  | sign method path body =>
    [("method", .text method), ("path", .text path), ("body", .text body)]

/-- A command as data: its words and, if it has any, its arguments. -/
def datum (command : Command) : Datum :=
  .list (.text command.words ::
    if command.arguments.isEmpty then [] else [.record command.arguments])

def value (values : Values) (name : String) : Option String :=
  (values.find? (·.1 == name)).map (·.2)

def valueOf (values : Values) (name : String) : String :=
  (value values name).getD ""

def jobGrammar : Grammar := { operands := [{ name := "id" }] }

def ofJobWords (name : String) (words : List String) : Except UsageFault Command :=
  match name with
  | "stuck" => do
    let _ ← Grammar.read {} words
    return stuckJobs
  | "settle" => do return settle (valueOf (← jobGrammar.read words) "id")
  | "renege" => do return renege (valueOf (← jobGrammar.read words) "id")
  | "history" => do return history (valueOf (← jobGrammar.read words) "id")
  | "force-status" => do
    let values ← Grammar.read
      { operands := [{ name := "id" }, { name := "status" }], options := [{ name := "reason" }] }
      words
    return forceStatus (valueOf values "id") (valueOf values "status") (valueOf values "reason")
  | _ => .error .unknownCommand

def ofAlertWords (name : String) (words : List String) : Except UsageFault Command :=
  match name with
  | "run" => do
    let _ ← Grammar.read {} words
    return runAlerts
  | "list" => do
    let _ ← Grammar.read {} words
    return listAlerts
  | "ack" => do
    let values ← Grammar.read
      { operands := [{ name := "id", accepts := fun text => (Text.int64? text).isSome }] } words
    return acknowledge ((Text.int64? (valueOf values "id")).getD 0)
  | _ => .error .unknownCommand

def gatewayGrammar : Grammar :=
  { options := [
      { name := "port", letter := some 'p', accepts := fun text => (port? text).isSome,
        isRequired := false },
      { name := "host", isRequired := false }] }

def signGrammar : Grammar :=
  { operands := [{ name := "method" }, { name := "path" }]
    options := [{ name := "body", isRequired := false }] }

def jobNames : List String := ["stuck", "settle", "renege", "force-status", "history", "help"]

def alertNames : List String := ["run", "list", "ack", "help"]

/-- The first words of commands. -/
def names : List String := ["serve", "gateway", "jobs", "alerts", "sign", "help"]

/-- The commands below a first word. -/
def namesBelow : String → List String
  | "jobs" => jobNames
  | "alerts" => alertNames
  | _ => []

/-- Whether some words name a command or a group of commands. -/
def isTopic : List String → Bool
  | [] => true
  | [word] => names.contains word
  | [word, next] => (namesBelow word).contains next
  | _ => false

/-- What a request for help about some words comes to. -/
def askHelp (words : List String) : Except UsageFault Command :=
  .error (if isTopic words then .helpAsked else .unknownCommand)

def ofWords (words : List String) : Except UsageFault Command := do
  let (name, words) ← Grammar.chooseWord names true words
  match name with
  | "serve" =>
    let _ ← Grammar.read {} words
    return serve
  | "gateway" =>
    let values ← gatewayGrammar.read words
    return gateway ((value values "port").bind port?) (value values "host")
  | "jobs" =>
    let (name, words) ← Grammar.chooseWord jobNames false words
    if name = "help" then askHelp ("jobs" :: words) else ofJobWords name words
  | "alerts" =>
    let (name, words) ← Grammar.chooseWord alertNames false words
    if name = "help" then askHelp ("alerts" :: words) else ofAlertWords name words
  | "sign" =>
    let values ← signGrammar.read words
    return sign (valueOf values "method") (valueOf values "path") (valueOf values "body")
  | _ => askHelp words

end Command

end JobRelay
