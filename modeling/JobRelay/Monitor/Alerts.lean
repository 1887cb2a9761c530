import JobRelay.Book.Accounts
import JobRelay.Monitor.Staleness

/-! # Alerts

Three checks raise alerts for the operator: stuck jobs, the number of active users, and the debt of
all users. An alert is not raised while one of its kind for the same job is open. A check that fails
is passed over. One that breaks off ends the run, which then has no summary; what was raised before
stays in the book.
-/

namespace JobRelay

inductive AlertType where
  | stuckJob
  | capacityWarning
  | debtWarning
deriving DecidableEq, Repr

instance : Named AlertType where
  all := [.stuckJob, .capacityWarning, .debtWarning]
  name
    | .stuckJob => "stuck_job"
    | .capacityWarning => "capacity_warning"
    | .debtWarning => "debt_warning"

/-- How grave an alert is. -/
inductive Severity where
  | critical
  | warning
deriving DecidableEq, Repr

instance : Named Severity where
  all := [.critical, .warning]
  name
    | .critical => "critical"
    | .warning => "warning"

/-- An alert as it is answered. -/
structure Alert where
  id : Nat
  alertType : AlertType
  severity : Severity
  title : String
  message : String
  jobId : Option String
  userId : Option String
  acknowledged : Bool
  createdAt : Instant
deriving DecidableEq, Repr

def Alert.datum (alert : Alert) : Datum :=
  .record [
    ("id", .whole alert.id),
    ("alert_type", .ofNamed alert.alertType),
    ("severity", .ofNamed alert.severity),
    ("title", .text alert.title),
    ("message", .text alert.message),
    ("job_id", .ofText? alert.jobId),
    ("user_id", .ofText? alert.userId),
    ("acknowledged", .flag alert.acknowledged),
    ("created_at", alert.createdAt.datum)]

/-- An alert that a check wants raised. -/
structure NewAlert where
  alertType : AlertType
  severity : Severity
  title : String
  message : String
  jobId : Option String := none
  userId : Option String := none
deriving DecidableEq, Repr

/-- The row of an alert that is raised under a number. -/
def NewAlert.row (alert : NewAlert) (now : Instant) (id : Nat) : AlertRow :=
  { id
    alertType := Named.name alert.alertType
    severity := Named.name alert.severity
    title := alert.title
    message := alert.message
    jobId := alert.jobId
    userId := alert.userId
    acknowledged := 0
    createdAt := now.stored }

/-- What one run of the checks saw and wrote. -/
structure AlertSummary where
  stuckJobsFound : Nat := 0
  alertsCreated : Nat := 0
  capacityWarning : Bool := false
  debtWarning : Bool := false
deriving DecidableEq, Repr

def AlertSummary.datum (s : AlertSummary) : Datum :=
  .record [
    ("stuck_jobs_found", .whole s.stuckJobsFound),
    ("alerts_created", .whole s.alertsCreated),
    ("capacity_warning", .flag s.capacityWarning),
    ("debt_warning", .flag s.debtWarning)]

namespace Book

/-- Whether an alert of a kind for a job, or for none, is open. -/
def hasOpenAlert (book : Book) (alertType : AlertType) (jobId : Option String) : Bool :=
  book.alerts.any fun row =>
    row.alertType == Named.name alertType && row.acknowledged == 0 && row.jobId == jobId

/-- Raises an alert unless one like it is open; tells whether it did. -/
def raiseAlert (book : Book) (alert : NewAlert) (now : Instant) :
    Except StoreError (Bool × Book) := do
  book.need .alerts
  if book.hasOpenAlert alert.alertType alert.jobId then return (false, book)
  return (true, { book with
    alerts := book.alerts ++ [alert.row now (book.lastAlert + 1)]
    lastAlert := book.lastAlert + 1 })

def stuckAlert (job : StuckJob) : NewAlert :=
  { alertType := .stuckJob
    severity := .critical
    title := "Job stuck in " ++ job.status.name
    message := "Job " ++ job.jobId ++ " (" ++ job.serviceId ++ ") has been " ++ job.status.name ++
      " for " ++ toString job.minutesStuck ++ " minutes"
    jobId := some job.jobId
    userId := some job.userId }

def capacityAlert (config : MonitorConfig) (active : Nat) : NewAlert :=
  { alertType := .capacityWarning
    severity := .warning
    title := "Approaching user capacity"
    message := toString active ++ " active users against a capacity of " ++
      toString config.userCapacity }

def debtAlert (config : MonitorConfig) (total : Int) : NewAlert :=
  { alertType := .debtWarning
    severity := .warning
    title := "Outstanding debt above threshold"
    message := "Users owe " ++ toString total ++ " sats in total (threshold " ++
      toString config.debtWarningThresholdSats ++ ")" }

/-- Raises one alert after another. The first one that cannot be written ends the run: the book is
the one reached, and the count is missing. -/
def raiseAll (book : Book) (now : Instant) : List NewAlert → Option Nat × Book
  | [] => (some 0, book)
  | alert :: alerts =>
    match book.raiseAlert alert now with
    | .error _ => (none, book)
    | .ok (raised, book) =>
      let (count, book) := book.raiseAll now alerts
      (count.map (· + raised.toNat), book)

/-- Looks for stuck jobs and raises their alerts. -/
def checkStuck (book : Book) (config : MonitorConfig) (now : Instant) : AlertSummary × Book :=
  match book.findStuck config.staleness now with
  | .error _ => ({}, book)
  | .ok stuck =>
    match book.raiseAll now (stuck.map stuckAlert) with
    | (some created, book) => ({ stuckJobsFound := stuck.length, alertsCreated := created }, book)
    | (none, book) => ({}, book)

def checkCapacity (book : Book) (config : MonitorConfig) (now : Instant) : AlertSummary × Book :=
  match book.activeUsers with
  | .error _ => ({}, book)
  | .ok active =>
    if config.isOverLevel active then
      match book.raiseAlert (capacityAlert config active) now with
      | .error _ => ({}, book)
      | .ok (raised, book) => ({ capacityWarning := true, alertsCreated := raised.toNat }, book)
    else ({}, book)

/-- Sums up the debts and raises the debt alert. Where the sum cannot be read the check breaks off
without a summary. -/
def checkDebt (book : Book) (config : MonitorConfig) (now : Instant) :
    Option AlertSummary × Book :=
  match book.outstandingDebt with
  | .error .brokenOff => (none, book)
  | .error (.failed _) => (some {}, book)
  | .ok total =>
    if config.debtWarningThresholdSats < total then
      match book.raiseAlert (debtAlert config total) now with
      | .error _ => (some {}, book)
      | .ok (raised, book) => (some { debtWarning := true, alertsCreated := raised.toNat }, book)
    else (some {}, book)

/-- Runs the three checks once. There is no summary if the last one breaks off. -/
def runAlertChecks (book : Book) (config : MonitorConfig) (now : Instant) :
    Option AlertSummary × Book :=
  let (stuck, book) := book.checkStuck config now
  let (capacity, book) := book.checkCapacity config now
  let (debt, book) := book.checkDebt config now
  (debt.map fun debt =>
    { stuckJobsFound := stuck.stuckJobsFound
      alertsCreated := stuck.alertsCreated + capacity.alertsCreated + debt.alertsCreated
      capacityWarning := capacity.capacityWarning
      debtWarning := debt.debtWarning }, book)

/-- Marks an open alert as handled; tells whether there was one. -/
def acknowledge (book : Book) (id : Int) : Except StoreError (Bool × Book) := do
  book.need .alerts
  if book.alerts.any fun row => (row.id : Int) == id && row.acknowledged == 0 then
    return (true, { book with
      alerts := book.alerts.map fun row =>
        if (row.id : Int) = id ∧ row.acknowledged = 0 then { row with acknowledged := 1 }
        else row })
  else return (false, book)

def readAlert (row : AlertRow) : Except StoreError Alert := do
  let alertType ←
    match Named.ofName? row.alertType with
    | some value => pure value
    | none => throw (.unexpectedAlertType row.alertType)
  let severity ←
    match Named.ofName? row.severity with
    | some value => pure value
    | none => throw (.unexpectedSeverity row.severity)
  return {
    id := row.id
    alertType
    severity
    title := row.title
    message := row.message
    jobId := row.jobId
    userId := row.userId
    acknowledged := row.acknowledged != 0
    createdAt := ← readInstant row.createdAt }

/-- The open alerts, the oldest first. -/
def openAlerts (book : Book) : Except StoreError (List Alert) := do
  book.need .alerts
  (book.alerts.filter (·.acknowledged == 0)).mapM readAlert

end Book

end JobRelay
