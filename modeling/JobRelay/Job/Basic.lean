import JobRelay.Calendar.Instant
import JobRelay.Job.Status

/-! # Jobs

A job cancels or resumes a user's subscription to a service. This module holds the job itself, the
kinds that go with it, the request that creates one, the report that an agent sends back and the
entries of its history.
-/

namespace JobRelay

/-- What is done to the subscription. -/
inductive JobAction where
  | cancel
  | resume
deriving DecidableEq, Repr, Inhabited

instance : Named JobAction where
  all := [.cancel, .resume]
  name
    | .cancel => "cancel"
    | .resume => "resume"

/-- What set a job off. -/
inductive TriggerSource where
  | scheduled
  | onDemand
  | outreach
deriving DecidableEq, Repr, Inhabited

instance : Named TriggerSource where
  all := [.scheduled, .onDemand, .outreach]
  name
    | .scheduled => "scheduled"
    | .onDemand => "on_demand"
    | .outreach => "outreach"

/-- Who moved a job. -/
inductive Actor where
  | scheduler
  | agent
  | settlement
  | operator
deriving DecidableEq, Repr, Inhabited

instance : Named Actor where
  all := [.scheduler, .agent, .settlement, .operator]
  name
    | .scheduler => "scheduler"
    | .agent => "agent"
    | .settlement => "settlement"
    | .operator => "operator"

theorem ofName?_actor (a : Actor) : Named.ofName? (Named.name a) = some a := by
  cases a <;> decide

/-- A job as it is answered. -/
structure Job where
  id : String
  userId : String
  serviceId : String
  action : JobAction
  trigger : TriggerSource
  status : JobStatus
  statusUpdatedAt : Instant
  billingDate : Option Date
  accessEndDate : Option Date
  outreachCount : Nat
  nextOutreachAt : Option Instant
  amountSats : Option Int
  invoiceId : Option String
  createdAt : Instant
deriving DecidableEq, Repr

/-- The request for a new job. -/
structure NewJob where
  userId : String
  serviceId : String
  action : JobAction
  trigger : TriggerSource
  billingDate : Option Date
deriving DecidableEq, Repr

/-- What an agent reports about a job. -/
structure AgentReport where
  status : JobStatus
  nextOutreachAt : Option Instant
  accessEndDate : Option Date
  billingDate : Option Date
  note : Option String
deriving DecidableEq, Repr

/-- One entry of a job's history. -/
structure StatusChange where
  fromStatus : Option JobStatus
  toStatus : JobStatus
  actor : Actor
  reason : Option String
  changedAt : Instant
deriving DecidableEq, Repr

end JobRelay
