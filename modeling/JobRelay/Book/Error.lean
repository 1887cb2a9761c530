import JobRelay.Text.Named

/-! # Faults of the book

Why a statement on the book fails, and the text that reports it. The codes are those of the
database engine whose constraints the book keeps.
-/

namespace JobRelay

inductive Table where
  | users
  | jobs
  | history
  | transactions
  | ledger
  | blocklist
  | alerts
deriving DecidableEq, Repr

instance : Named Table where
  all := [.users, .jobs, .history, .transactions, .ledger, .blocklist, .alerts]
  name
    | .users => "users"
    | .jobs => "jobs"
    | .history => "job_status_history"
    | .transactions => "transactions"
    | .ledger => "revenue_ledger"
    | .blocklist => "blocklist"
    | .alerts => "operator_alerts"

/-- Why a statement fails. -/
inductive StoreError where
  /-- A row with the same primary key is there. -/
  | duplicateKey (table : Table) (column : String)
  /-- Another job carries the invoice. -/
  | duplicateInvoice
  /-- The row that is referred to is not there. -/
  | unknownParent
  /-- A debt would fall below zero. -/
  | negativeDebt
  /-- Entries of the revenue ledger are never changed or removed. -/
  | appendOnly
  /-- A sum does not fit sixty-four bits. -/
  | sumOverflow
  /-- The table is not there. -/
  | missingTable (table : Table)
  /-- The table that a reference leads to is not there. -/
  | missingParent (table : Table)
  | unexpectedName (text : String)
  | unexpectedAlertType (text : String)
  | unexpectedSeverity (text : String)
  | invalidTimestamp (text : String)
  | invalidDate (text : String)
  /-- A row that has to be there is not. -/
  | noRow
  /-- The outreach count of a job is kept rounded because it does not fit sixty-four bits. An
  operation that reads it ends there, and what it wrote is undone. -/
  | inexactCount
deriving DecidableEq, Repr

namespace StoreError

def coded (code : Nat) (text : String) : String :=
  "(code: " ++ toString code ++ ") " ++ text

/-- A stored value that does not read back. -/
def undecodable (kind text : String) : String :=
  kind ++ " '" ++ text ++ "'"

/-- Whether the fault lies in a stored value and not in a statement. -/
def isUndecodable : StoreError → Bool
  | unexpectedName _ | unexpectedAlertType _ | unexpectedSeverity _ | invalidTimestamp _
  | invalidDate _ => true
  | _ => false

def reason : StoreError → String
  | duplicateKey table column =>
    coded 1555 ("UNIQUE constraint failed: " ++ Named.name table ++ "." ++ column)
  | duplicateInvoice => coded 2067 "UNIQUE constraint failed: jobs.invoice_id"
  | unknownParent => coded 787 "FOREIGN KEY constraint failed"
  | negativeDebt => coded 275 "CHECK constraint failed: debt_sats >= 0"
  | appendOnly => coded 1811 "revenue_ledger is append-only"
  | sumOverflow => coded 1 "integer overflow"
  | missingTable table => coded 1 ("no such table: " ++ Named.name table)
  | missingParent table => coded 1 ("no such table: main." ++ Named.name table)
  | unexpectedName text => undecodable "unexpected enum value" text
  | unexpectedAlertType text => undecodable "unexpected alert type" text
  | unexpectedSeverity text => undecodable "unexpected severity" text
  | invalidTimestamp text => undecodable "invalid timestamp" text
  | invalidDate text => undecodable "invalid date" text
  | noRow => "no rows returned by a query that expected to return at least one row"
  | inexactCount => "stored number does not fit a 64-bit integer"

/-- The texts that report a fault, each followed by its reason. -/
def chain (error : StoreError) : List String :=
  match error with
  | noRow | inexactCount => [error.reason]
  | _ =>
    let place :=
      if error.isUndecodable then "error occurred while decoding: "
      else "error returned from database: "
    [place ++ error.reason, error.reason]

def message (error : StoreError) : String :=
  error.chain.headD error.reason

end StoreError

/-- Why a stored amount is not told. -/
inductive AmountFault where
  /-- The statement fails and the fault is reported. -/
  | failed (error : StoreError)
  /-- The amount is kept rounded because it does not fit sixty-four bits. This is no fault that a
  caller could report or pass over: whatever reads the amount breaks off there. -/
  | brokenOff
deriving DecidableEq, Repr

end JobRelay
