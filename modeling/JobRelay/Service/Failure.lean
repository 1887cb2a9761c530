import JobRelay.Access.Authenticator
import JobRelay.Lifecycle.Error
import JobRelay.Payment.Provider
import JobRelay.Settlement.Error

/-! # Failures

Every failure of the service belongs to a family, whose name stands before its text.
-/

namespace JobRelay

/-- Why settings are refused. -/
inductive ConfigError where
  | load (reason : String)
  | validation (reason : String)
deriving DecidableEq, Repr

def ConfigError.message : ConfigError → String
  | load reason => "failed to load config: " ++ reason
  | validation reason => "validation failed: " ++ reason

inductive Failure where
  | config (error : ConfigError)
  | store (error : StoreError)
  | auth (rejection : AuthRejection)
  | transition (error : TransitionError)
  | settlement (error : SettlementError)
  | payment (error : PaymentError)
  /-- A failure of no family. -/
  | other (text : String)
deriving DecidableEq, Repr

def Failure.message : Failure → String
  | config error => "config: " ++ error.message
  | store error => "store: " ++ error.message
  | auth rejection => "auth: " ++ rejection.message
  | transition error => "transition: " ++ error.message
  | settlement error => "settlement: " ++ error.message
  | payment error => "payment: " ++ error.message
  | other text => text

end JobRelay
