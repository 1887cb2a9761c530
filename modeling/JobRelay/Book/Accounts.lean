import JobRelay.Book.Basic
import JobRelay.Job.Forms

/-! # Accounts

What is read off the book about users and money: active users, debts, and the revenue ledger.
-/

namespace JobRelay

/-- An entry of the revenue ledger as it is answered. -/
structure LedgerEntry where
  id : Nat
  jobId : String
  serviceId : String
  action : String
  amountSats : Int
  paymentStatus : String
  recordedAt : Instant
deriving DecidableEq, Repr

def LedgerEntry.datum (entry : LedgerEntry) : Datum :=
  .record [
    ("id", .whole entry.id),
    ("job_id", .text entry.jobId),
    ("service_id", .text entry.serviceId),
    ("action", .text entry.action),
    ("amount_sats", .whole entry.amountSats),
    ("payment_status", .text entry.paymentStatus),
    ("recorded_at", entry.recordedAt.datum)]

namespace Book

def activeUsers (book : Book) : Except StoreError Nat := do
  book.need .users
  return (book.users.filter (·.status == "active")).length

/-- A stored amount, which has to be exact. -/
def readAmount (n : Int) : Except AmountFault Int :=
  if Text.fitsInt64 n then .ok n else .error .brokenOff

/-- The sum of all positive debts. One that is kept rounded makes the sum a rounded number too, which
is not read; whole debts have to add up to sixty-four bits. -/
def outstandingDebt (book : Book) : Except AmountFault Int := do
  (book.need .users).mapError .failed
  let debts := (book.users.map (·.debtSats)).filter (0 < ·)
  if !debts.all Text.fitsInt64 then throw .brokenOff
  if !Text.fitsInt64 (Amount.total debts) then throw (.failed .sumOverflow)
  return Amount.total debts

def userDebt (book : Book) (id : String) : Except AmountFault (Option Int) := do
  (book.need .users).mapError .failed
  readOptional readAmount ((book.userRow? id).map (·.debtSats))

def blocklistDebt (book : Book) (hash : String) : Except AmountFault (Option Int) := do
  (book.need .blocklist).mapError .failed
  readOptional readAmount ((book.blocklistRow? hash).map (·.debtSats))

def readEntry (row : LedgerRow) : Except StoreError LedgerEntry := do
  return {
    id := row.id
    jobId := row.jobId
    serviceId := row.serviceId
    action := row.action
    amountSats := row.amountSats
    paymentStatus := row.paymentStatus
    recordedAt := ← readInstant row.recordedAt }

/-- The entries of the revenue ledger, those of one job or all of them, the oldest first. -/
def ledgerEntries (book : Book) (jobId : Option String) : Except StoreError (List LedgerEntry) := do
  book.need .ledger
  (book.ledger.filter fun row => jobId.all (· == row.jobId)).mapM readEntry

end Book

end JobRelay
