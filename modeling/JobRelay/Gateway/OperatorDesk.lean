import JobRelay.Gateway.Basic
import JobRelay.Gateway.Route
import JobRelay.Lifecycle.Progress
import JobRelay.Monitor.Alerts
import JobRelay.Settlement.Basic

/-! # What the operator asks for

The operator settles and writes off jobs, forces their status, relays one-time codes, reads
histories and stuck jobs, and runs, lists and acknowledges alerts.
-/

namespace JobRelay.Gateway

open Shape

def outcomeAnswer (outcome : SettlementOutcome) : Response :=
  { status := outcome.statusCode, body := some outcome.datum }

def settleJob (g : Gateway) (job : String) (now : Instant) : Response × Gateway :=
  g.withInput (decodeSegment job) fun id =>
    g.change (g.book.settle id now) (fun error => outcomeAnswer (.refused error))
      fun job => outcomeAnswer (.settled job)

def renegeJob (g : Gateway) (job : String) (now : Instant) : Response × Gateway :=
  g.withInput (decodeSegment job) fun id =>
    g.change (g.book.recordRenege id now) moveRefusal jobAnswer

/-- A status by its name, with the reason for it. -/
structure Override where
  status : String
  reason : String
deriving DecidableEq, Repr

def Override.shape : Shape Override := fun d => do
  let found ← fields [.of "status" text .always, .of "reason" text] d
  return { status := ← need found "status" text, reason := ← get found "reason" text "" }

def overrideJob (g : Gateway) (r : Request) (job : String) (now : Instant) :
    Response × Gateway :=
  g.withInput (decodeSegment job) fun id =>
    g.withInput (r.json Override.shape) fun wanted =>
      match JobStatus.ofName? (Text.trim wanted.status) with
      | none => (moveRefusal (.unknownStatus wanted.status), g)
      | some status =>
        g.change (g.book.forceStatus id status wanted.reason now) moveRefusal jobAnswer

/-- The one-time code in a request. -/
def codeShape : Shape String := fun d => do
  let found ← fields [.of "code" text .always] d
  need found "code" text

def relayCode (g : Gateway) (r : Request) (job : String) : Response × Gateway :=
  g.withInput (decodeSegment job) fun id =>
    g.withInput (r.json codeShape) fun code =>
      if Text.isBlankText code then (.refusal 400 "code must not be empty", g)
      else
        g.change ((g.book.submitOtp id code).map fun book => ((), book)) moveRefusal
          fun _ => wordAnswer "ok"

def showHistory (g : Gateway) (job : String) : Response × Gateway :=
  g.withInput (decodeSegment job) fun id =>
    g.look (g.book.historyOf id) storeRefusal fun history =>
      if history.isEmpty then jobMissing
      else .ok (.record [("history", .list (history.map StatusChange.datum))])

def listStuck (g : Gateway) (now : Instant) : Response × Gateway :=
  g.look (g.book.findStuck g.config.monitor.staleness now) storeRefusal fun jobs =>
    .ok (.record [("jobs", .list (jobs.map StuckJob.datum))])

/-- Runs the checks that raise alerts. A run that breaks off is not answered. -/
def runAlerts (g : Gateway) (now : Instant) : Response × Gateway :=
  let (summary, book) := g.book.runAlertChecks g.config.monitor now
  (summary.elim .dropped fun summary => .ok summary.datum, { g with book })

def listAlerts (g : Gateway) : Response × Gateway :=
  g.look g.book.openAlerts storeRefusal fun alerts =>
    .ok (.record [("alerts", .list (alerts.map Alert.datum))])

def alertNumber (segment : String) : Except Response Int := do
  let text ← decodeSegment segment
  match Text.int64? text with
  | some id => .ok id
  | none => .error (.bare 400)

def acknowledgeAlert (g : Gateway) (alert : String) : Response × Gateway :=
  g.withInput (alertNumber alert) fun id =>
    g.change (g.book.acknowledge id) storeRefusal fun wasOpen =>
      if wasOpen then wordAnswer "acknowledged" else .refusal 404 "No open alert with that id"

def serveOperator (g : Gateway) (route : OperatorRoute) (r : Request) (now : Instant) :
    Response × Gateway :=
  match route with
  | .stuckJobs => g.listStuck now
  | .settle job => g.settleJob job now
  | .renege job => g.renegeJob job now
  | .forceStatus job => g.overrideJob r job now
  | .submitOtp job => g.relayCode r job
  | .history job => g.showHistory job
  | .alerts => g.listAlerts
  | .runAlerts => g.runAlerts now
  | .acknowledge alert => g.acknowledgeAlert alert

end JobRelay.Gateway
