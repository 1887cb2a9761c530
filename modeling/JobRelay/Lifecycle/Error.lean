import JobRelay.Book.Error
import JobRelay.Job.Status

/-! # Refused moves

Why a job cannot be moved, with the text and the status code that report it.
-/

namespace JobRelay

/-- Why a move of a job is refused. -/
inductive TransitionError where
  | notFound (id : String)
  | notAllowed (fromName toName : String)
  | alreadyInvoiced (jobId invoiceId : String)
  | unknownStatus (text : String)
  | missingReason
  | store (cause : StoreError)
deriving DecidableEq, Repr

namespace TransitionError

def message : TransitionError → String
  | notFound id => "job " ++ id ++ " not found"
  | notAllowed fromName toName => "transition " ++ fromName ++ " -> " ++ toName ++ " is not allowed"
  | alreadyInvoiced jobId invoiceId => "job " ++ jobId ++ " already carries invoice " ++ invoiceId
  | unknownStatus text => "unknown job status '" ++ text ++ "'"
  | missingReason => "status override requires a non-empty reason"
  | store cause => "store: " ++ cause.message

/-- The texts that report a refusal, each followed by its reason. -/
def chain : TransitionError → List String
  | store cause => message (store cause) :: cause.chain
  | error => [error.message]

def statusCode : TransitionError → Nat
  | notFound _ => 404
  | notAllowed _ _ | alreadyInvoiced _ _ => 409
  | unknownStatus _ | missingReason => 400
  | store _ => 500

def kind : TransitionError → String
  | notFound _ => "NotFound"
  | notAllowed _ _ => "NotAllowed"
  | alreadyInvoiced _ _ => "AlreadyInvoiced"
  | unknownStatus _ => "UnknownStatus"
  | missingReason => "MissingReason"
  | store _ => "Store"

/-- A move along no edge. -/
def forbidden (current next : JobStatus) : TransitionError :=
  .notAllowed current.name next.name

end TransitionError

instance : MonadLift (Except StoreError) (Except TransitionError) where
  monadLift result := result.mapError .store

end JobRelay
