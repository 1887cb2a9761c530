import JobRelay.Book.Error
import JobRelay.Job.Forms

/-! # Refused settlements

Why a payment cannot be settled, with the text and the status code that report it, and the outcome
of a settlement as it is answered.
-/

namespace JobRelay

/-- Why a settlement is refused. -/
inductive SettlementError where
  | notFound (id : String)
  | alreadyPaid (id : String)
  | notPayable (jobId reason : String)
  | store (cause : StoreError)
deriving DecidableEq, Repr

namespace SettlementError

def message : SettlementError → String
  | notFound id => "job " ++ id ++ " not found"
  | alreadyPaid id => "job " ++ id ++ " is already paid"
  | notPayable jobId reason => "job " ++ jobId ++ " is not in a payable state: " ++ reason
  | store cause => "store: " ++ cause.message

def statusCode : SettlementError → Nat
  | notFound _ => 404
  | alreadyPaid _ => 409
  | notPayable _ _ => 400
  | store _ => 500

/-- Whether the same settlement can be tried again with effect or without harm. -/
def isRetryable : SettlementError → Bool
  | alreadyPaid _ | store _ => true
  | _ => false

def kind : SettlementError → String
  | notFound _ => "NotFound"
  | alreadyPaid _ => "AlreadyPaid"
  | notPayable _ _ => "NotPayable"
  | store _ => "Store"

end SettlementError

instance : MonadLift (Except StoreError) (Except SettlementError) where
  monadLift result := result.mapError .store

inductive SettlementOutcome where
  | settled (job : Job)
  | refused (error : SettlementError)
deriving DecidableEq, Repr

namespace SettlementOutcome

def of {β : Type} : Except SettlementError (Job × β) → SettlementOutcome
  | .ok (job, _) => .settled job
  | .error error => .refused error

def statusCode : SettlementOutcome → Nat
  | settled _ => 200
  | refused error => error.statusCode

/-- The text of a refusal; a fault of the book is not told. -/
def errorText : SettlementError → String
  | .store _ => "settlement failed"
  | error => error.message

def datum : SettlementOutcome → Datum
  | settled job =>
    .record [("success", .flag true), ("job", job.datum), ("status_code", .whole 200)]
  | refused error =>
    .record [("success", .flag false), ("error", .text (errorText error)),
      ("status_code", .whole error.statusCode)]

end SettlementOutcome

end JobRelay
