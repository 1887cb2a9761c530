import JobRelay.Command.Basic
import JobRelay.Data.Json.Printer
import JobRelay.Gateway.Listening
import JobRelay.Monitor.Alerts
import JobRelay.Service.Components
import JobRelay.Settlement.Basic
import JobRelay.Book.Maintenance
import JobRelay.Lifecycle.Progress
import JobRelay.Access.Signature

/-! # Running commands

A command reads and changes the book, prints lines, and may fail with a report whose first text is
the outermost. What has been printed before a failure stays printed. A command that breaks off ends
without a report.
-/

namespace JobRelay

/-- What a command has done. -/
structure CommandResult where
  /-- The printed lines. -/
  lines : List String := []
  /-- The report of a failure, outermost first. -/
  failure : Option (List String) := none
  /-- Whether the program broke off. -/
  brokenOff : Bool := false
  book : Book

namespace CommandResult

/-- All that is printed. -/
def output (r : CommandResult) : String :=
  String.join (r.lines.map (· ++ "\n"))

/-- A failure that leaves the book as it was. -/
def failed (book : Book) (chain : List String) : CommandResult :=
  { failure := some chain, book }

/-- A result printed as data. -/
def printed (book : Book) (d : Datum) : CommandResult :=
  { lines := [Json.pretty d], book }

/-- The result of a change to the book that is printed as data. -/
def ofChange {ε α : Type} (book : Book) (result : Except ε (α × Book)) (chain : ε → List String)
    (datum : α → Datum) : CommandResult :=
  match result with
  | .ok (value, book) => printed book (datum value)
  | .error error => failed book (chain error)

end CommandResult

namespace Command

def padRight (width : Nat) (s : String) : String :=
  s ++ String.ofList (List.replicate (width - s.length) ' ')

def padLeft (width : Nat) (s : String) : String :=
  String.ofList (List.replicate (width - s.length) ' ') ++ s

def stuckLine (job : StuckJob) : String :=
  job.jobId ++ "  " ++ padRight 14 job.status.name ++ " " ++
    padLeft 6 (toString job.minutesStuck) ++ " min  user=" ++ job.userId ++
    " service=" ++ job.serviceId

def runStuck (config : Config) (book : Book) (now : Instant) : CommandResult :=
  match book.findStuck config.monitor.staleness now with
  | .error error => .failed book error.chain
  | .ok [] => { lines := ["No stuck jobs."], book }
  | .ok jobs => { lines := jobs.map stuckLine, book }

/-- Settles a job; the outcome is printed even if it is a refusal. -/
def runSettle (id : String) (book : Book) (now : Instant) : CommandResult :=
  match book.settle id now with
  | .ok (job, book) => .printed book (SettlementOutcome.settled job).datum
  | .error error =>
    let outcome := SettlementOutcome.refused error
    { CommandResult.printed book outcome.datum with
      failure := some
        ["settlement of " ++ id ++ " failed with status " ++ toString outcome.statusCode] }

def runForce (id status reason : String) (book : Book) (now : Instant) : CommandResult :=
  match JobStatus.ofName? (Text.trim status) with
  | none => .failed book ["unknown status '" ++ status ++ "'"]
  | some next =>
    .ofChange book (book.forceStatus id next reason now) TransitionError.chain Job.datum

def runHistory (id : String) (book : Book) : CommandResult :=
  match book.historyOf id with
  | .error error => .failed book error.chain
  | .ok [] => .failed book ["job " ++ id ++ " not found"]
  | .ok changes => .printed book (.list (changes.map StatusChange.datum))

def runListAlerts (book : Book) : CommandResult :=
  match book.openAlerts with
  | .error error => .failed book error.chain
  | .ok alerts => .printed book (.list (alerts.map Alert.datum))

def runAcknowledge (id : Int) (book : Book) : CommandResult :=
  match book.acknowledge id with
  | .error error => .failed book error.chain
  | .ok (false, _) => .failed book ["no open alert with id " ++ toString id]
  | .ok (true, book) => { lines := ["Alert " ++ toString id ++ " acknowledged."], book }

/-- Signs a request with the nonce given. -/
def runSign (config : Config) (method path body nonce : String) (book : Book) (now : Instant) :
    CommandResult :=
  match config.agent.sharedSecret with
  | none => .failed book ["no [agent] shared_secret configured"]
  | some secret =>
    let headers := signAt secret method path (utf8 body) now.seconds nonce
    { lines :=
        [timestampHeader ++ ": " ++ headers.timestamp, nonceHeader ++ ": " ++ headers.nonce,
          signatureHeader ++ ": " ++ headers.signature]
      book }

/-- Starts the gateway, by itself or as a part of the service. -/
def runGateway (config : Config) (port : Option Nat) (host : Option String) (book : Book) :
    CommandResult :=
  let wanted := { config with
    gateway := { config.gateway with
      port := port.getD config.gateway.port
      host := host.getD config.gateway.host } }
  match wanted.gateway.bindAddress with
  | .error fault => .failed book fault.chain
  | .ok _ =>
    { lines := (Gateway.create wanted book).banner wanted.gateway.host
        (toString wanted.gateway.port)
      book }

/-- Starts the service, whose alert generator runs its checks at once. -/
def runServe (config : Config) (book : Book) (now : Instant) : CommandResult :=
  { lines := config.serviceBanner
    book := if config.monitor.enabled then (book.runAlertChecks config.monitor now).2 else book }

/-- Runs a command at a time. The nonce is used if a request is signed. -/
def run (command : Command) (config : Config) (book : Book) (now : Instant) (nonce : String) :
    CommandResult :=
  match command with
  | .sign method path body => runSign config method path body nonce book now
  | command =>
    -- All other commands open the book, which puts missing tables back.
    let book := book.ensureTables
    match command with
    | .serve => runServe config book now
    | .gateway port host => runGateway config port host book
    | .stuckJobs => runStuck config book now
    | .settle id => runSettle id book now
    | .renege id =>
      .ofChange book (book.recordRenege id now) TransitionError.chain Job.datum
    | .forceStatus id status reason => runForce id status reason book now
    | .history id => runHistory id book
    | .runAlerts =>
      match book.runAlertChecks config.monitor now with
      | (none, book) => { brokenOff := true, book }
      | (some summary, book) => .printed book summary.datum
    | .listAlerts => runListAlerts book
    | .acknowledge id => runAcknowledge id book
    | .sign _ _ _ => { book }

end Command

end JobRelay
