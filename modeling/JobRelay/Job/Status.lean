import JobRelay.Text.Named

/-! # The lifecycle of a job

The statuses of a job, the graph of ordinary moves between them, and who may write which. Agents
report progress, settlement alone writes the outcomes that carry money, and an operator may force a
job along an edge or to a terminal status.
-/

namespace JobRelay

/-- Where a job stands. -/
inductive JobStatus where
  | pending
  | dispatched
  | outreachSent
  | snoozed
  | active
  | awaitingOtp
  | completedPaid
  | completedEventual
  | completedReneged
  | userSkip
  | userAbandon
  | impliedSkip
  | failed
deriving DecidableEq, Repr, Inhabited

namespace JobStatus

def name : JobStatus → String
  | pending => "pending"
  | dispatched => "dispatched"
  | outreachSent => "outreach_sent"
  | snoozed => "snoozed"
  | active => "active"
  | awaitingOtp => "awaiting_otp"
  | completedPaid => "completed_paid"
  | completedEventual => "completed_eventual"
  | completedReneged => "completed_reneged"
  | userSkip => "user_skip"
  | userAbandon => "user_abandon"
  | impliedSkip => "implied_skip"
  | failed => "failed"

instance : Named JobStatus where
  all := [pending, dispatched, outreachSent, snoozed, active, awaitingOtp, completedPaid,
    completedEventual, completedReneged, userSkip, userAbandon, impliedSkip, failed]
  name := name

def all : List JobStatus := Named.all

def ofName? (text : String) : Option JobStatus := Named.ofName? text

@[simp] theorem ofName?_name (s : JobStatus) : ofName? s.name = some s := by
  cases s <;> decide

theorem name_inj {s t : JobStatus} (h : s.name = t.name) : s = t := by
  simpa [h] using (ofName?_name s).symm

/-- The job is over, apart from a late payment and an operator's correction. -/
def isTerminal : JobStatus → Bool
  | completedPaid | completedEventual | completedReneged | userSkip | userAbandon | impliedSkip
  | failed => true
  | _ => false

/-- The payment has been confirmed. -/
def isPaid : JobStatus → Bool
  | completedPaid | completedEventual => true
  | _ => false

/-- The statuses one ordinary step away. A late payment is the only step out of a terminal one. -/
def successors : JobStatus → List JobStatus
  | pending => [dispatched, userSkip, impliedSkip, failed]
  | dispatched => [outreachSent, active, completedPaid, completedReneged, userAbandon, failed]
  | outreachSent => [active, awaitingOtp, snoozed, userSkip, impliedSkip, userAbandon, failed]
  | snoozed => [outreachSent, userSkip, impliedSkip, failed]
  | active => [awaitingOtp, completedPaid, completedReneged, userAbandon, failed]
  | awaitingOtp => [active, userAbandon, failed]
  | completedReneged => [completedEventual]
  | _ => []

/-- Whether an ordinary step leads from one status to another. -/
def canMoveTo (s next : JobStatus) : Bool :=
  s.successors.contains next

def isAgentReportable : JobStatus → Bool
  | active | awaitingOtp | outreachSent | snoozed | failed => true
  | _ => false

/-- The statuses that carry money and that settlement alone writes. -/
def isSettlementOwned : JobStatus → Bool
  | completedPaid | completedEventual | completedReneged => true
  | _ => false

/-- An operator may follow an edge or jump to a terminal status, but not write an outcome that
settlement owns. -/
def canForceTo (s next : JobStatus) : Bool :=
  s != next && !next.isSettlementOwned && (s.canMoveTo next || next.isTerminal)

/-- The targets of an operator's override, in declared order. -/
def forceable (s : JobStatus) : List JobStatus :=
  all.filter s.canForceTo

end JobStatus

end JobRelay
