/-! # Rows

The rows of the tables as they are stored. Kinds, dates and instants are kept as text, because a
row may hold text that does not read back; amounts are whole numbers of sats.
-/

namespace JobRelay

/-- A user with the debt still owed. -/
structure UserRow where
  id : String
  emailHash : Option String
  debtSats : Int
  status : String
  createdAt : String
deriving DecidableEq, Repr

structure JobRow where
  id : String
  userId : String
  serviceId : String
  action : String
  triggerSource : String
  status : String
  statusUpdatedAt : String
  billingDate : Option String := none
  accessEndDate : Option String := none
  outreachCount : Int := 0
  nextOutreachAt : Option String := none
  amountSats : Option Int := none
  invoiceId : Option String := none
  otpCode : Option String := none
  createdAt : String
deriving DecidableEq, Repr

/-- A move of a job. -/
structure HistoryRow where
  id : Nat
  jobId : String
  fromStatus : Option String
  toStatus : String
  actor : String
  reason : Option String
  createdAt : String
deriving DecidableEq, Repr

/-- The payment record of a job. -/
structure TransactionRow where
  jobId : String
  userId : String
  amountSats : Option Int
  invoiceId : Option String
  status : String
  paidAt : Option String
  createdAt : String
deriving DecidableEq, Repr

structure LedgerRow where
  id : Nat
  jobId : String
  serviceId : String
  action : String
  amountSats : Int
  paymentStatus : String
  recordedAt : String
deriving DecidableEq, Repr

/-- The unpaid debt under one email hash. -/
structure BlocklistRow where
  emailHash : String
  debtSats : Int
  updatedAt : String
deriving DecidableEq, Repr

structure AlertRow where
  id : Nat
  alertType : String
  severity : String
  title : String
  message : String
  jobId : Option String
  userId : Option String
  acknowledged : Int
  createdAt : String
deriving DecidableEq, Repr

end JobRelay
