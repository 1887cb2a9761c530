import JobRelay.Book.Amount
import JobRelay.Book.Error
import JobRelay.Book.Row
import JobRelay.Job.Basic

/-! # The book

Everything that is stored, as one value: seven tables in order of insertion, counters that hand out
row numbers, and the tables that are gone. A statement takes a book to a new one or fails; a caller
that keeps the old book on failure has undone the whole operation.
-/

namespace JobRelay

/-- The stored tables. -/
structure Book where
  users : List UserRow := []
  jobs : List JobRow := []
  history : List HistoryRow := []
  transactions : List TransactionRow := []
  ledger : List LedgerRow := []
  blocklist : List BlocklistRow := []
  alerts : List AlertRow := []
  /-- The greatest number given to a history row. -/
  lastHistory : Nat := 0
  /-- The greatest number given to a ledger row. -/
  lastLedger : Nat := 0
  /-- The greatest number given to an alert. -/
  lastAlert : Nat := 0
  /-- The tables that are not there. -/
  missing : List Table := []
deriving DecidableEq, Repr

namespace Book

/-- The book with all tables and no rows. -/
def empty : Book := {}

/-- A statement on a table needs the table. -/
def need (book : Book) (table : Table) : Except StoreError Unit :=
  if book.missing.contains table then .error (.missingTable table) else .ok ()

/-- A row that refers to a table needs that table. -/
def needParent (book : Book) (table : Table) : Except StoreError Unit :=
  if book.missing.contains table then .error (.missingParent table) else .ok ()

/-! ## Reading stored text -/

def readName {α : Type} [Named α] (text : String) : Except StoreError α :=
  match Named.ofName? text with
  | some value => .ok value
  | none => .error (.unexpectedName text)

def readInstant (text : String) : Except StoreError Instant :=
  match Instant.read? text with
  | some value => .ok value
  | none => .error (.invalidTimestamp text)

def readDate (text : String) : Except StoreError Date :=
  match Date.read? text with
  | some value => .ok value
  | none => .error (.invalidDate text)

/-- A stored value that may be missing. -/
def readOptional {ε α β : Type} (read : α → Except ε β) : Option α → Except ε (Option β)
  | some value => (read value).map some
  | none => .ok none

/-- A stored outreach count, which has to be exact. -/
def readCount (n : Int) : Except StoreError Int :=
  if Text.fitsInt64 n then .ok n else .error .inexactCount

/-- The greatest outreach count that is answered. -/
def maxOutreach : Nat := 4294967295

/-- A stored job read back. A count outside its range is answered as the greatest one. -/
def readJob (row : JobRow) : Except StoreError Job := do
  let action ← readName row.action
  let trigger ← readName row.triggerSource
  let count ← readCount row.outreachCount
  return {
    id := row.id
    userId := row.userId
    serviceId := row.serviceId
    action
    trigger
    status := ← readName row.status
    statusUpdatedAt := ← readInstant row.statusUpdatedAt
    billingDate := ← readOptional readDate row.billingDate
    accessEndDate := ← readOptional readDate row.accessEndDate
    outreachCount := if 0 ≤ count ∧ count ≤ maxOutreach then count.toNat else maxOutreach
    nextOutreachAt := ← readOptional readInstant row.nextOutreachAt
    amountSats := row.amountSats
    invoiceId := row.invoiceId
    createdAt := ← readInstant row.createdAt }

def readChange (row : HistoryRow) : Except StoreError StatusChange := do
  return {
    fromStatus := ← readOptional readName row.fromStatus
    toStatus := ← readName row.toStatus
    actor := ← readName row.actor
    reason := row.reason
    changedAt := ← readInstant row.createdAt }

/-! ## Looking up -/

def jobRow? (book : Book) (id : String) : Option JobRow :=
  book.jobs.find? (·.id == id)

def userRow? (book : Book) (id : String) : Option UserRow :=
  book.users.find? (·.id == id)

def transactionRow? (book : Book) (jobId : String) : Option TransactionRow :=
  book.transactions.find? (·.jobId == jobId)

def blocklistRow? (book : Book) (hash : String) : Option BlocklistRow :=
  book.blocklist.find? (·.emailHash == hash)

def fetchJob (book : Book) (id : String) : Except StoreError (Option Job) := do
  book.need .jobs
  readOptional readJob (book.jobRow? id)

def findByInvoice (book : Book) (invoiceId : String) : Except StoreError (Option Job) := do
  book.need .jobs
  readOptional readJob (book.jobs.find? (·.invoiceId == some invoiceId))

/-- Older rows first, then those that moved earlier. -/
def olderJob (a b : JobRow) : Bool :=
  a.createdAt < b.createdAt ||
    (a.createdAt == b.createdAt && !(decide (b.statusUpdatedAt < a.statusUpdatedAt)))

/-- The oldest jobs in a status, at most `limit` of them. -/
def listByStatus (book : Book) (status : JobStatus) (limit : Nat) :
    Except StoreError (List Job) := do
  book.need .jobs
  let rows := (book.jobs.filter (·.status == status.name)).mergeSort olderJob
  (rows.take limit).mapM readJob

/-- The moves of a job, the first one first. -/
def historyOf (book : Book) (id : String) : Except StoreError (List StatusChange) := do
  book.need .history
  (book.history.filter (·.jobId == id)).mapM readChange

/-! ## Writing -/

/-- The job rows with those of one id changed. -/
def updateJobs (jobs : List JobRow) (id : String) (update : JobRow → JobRow) : List JobRow :=
  jobs.map fun row => if row.id = id then update row else row

def updateJob (book : Book) (id : String) (update : JobRow → JobRow) : Book :=
  { book with jobs := updateJobs book.jobs id update }

def updateUser (book : Book) (id : String) (update : UserRow → UserRow) : Book :=
  { book with users := book.users.map fun row => if row.id = id then update row else row }

def recordMove (book : Book) (jobId : String) (fromStatus : Option JobStatus)
    (toStatus : JobStatus) (actor : Actor) (reason : Option String) (now : Instant) :
    Except StoreError Book := do
  book.need .history
  let row : HistoryRow :=
    { id := book.lastHistory + 1
      jobId
      fromStatus := fromStatus.map JobStatus.name
      toStatus := toStatus.name
      actor := Named.name actor
      reason
      createdAt := now.stored }
  return { book with history := book.history ++ [row], lastHistory := book.lastHistory + 1 }

/-- Moves a job that stands in a status; none if it does not stand there. -/
def moveJob? (book : Book) (id : String) (current next : JobStatus) (now : Instant) :
    Option Book :=
  if book.jobs.any fun row => row.id == id && row.status == current.name then
    some { book with
      jobs := book.jobs.map fun row =>
        if row.id = id ∧ row.status = current.name then
          { row with status := next.name, statusUpdatedAt := now.stored }
        else row }
  else none

/-- Writes a payment record: appends it, or changes the one that is there. -/
def recordTransaction (book : Book) (fresh : TransactionRow)
    (change : TransactionRow → TransactionRow) : Except StoreError Book := do
  book.need .transactions
  if book.transactions.any (·.jobId == fresh.jobId) then
    return { book with
      transactions := book.transactions.map fun row =>
        if row.jobId = fresh.jobId then change row else row }
  else return { book with transactions := book.transactions ++ [fresh] }

/-- Changes a user's debt, which may not fall below zero. -/
def changeDebt (book : Book) (userId : String) (change : Int → Int) : Except StoreError Book := do
  book.need .users
  if book.users.any fun row => row.id == userId && change row.debtSats < 0 then
    throw .negativeDebt
  return book.updateUser userId fun row => { row with debtSats := change row.debtSats }

/-- The email hash of a user, if the user is there and has one. -/
def emailHash (book : Book) (userId : String) : Except StoreError (Option String) := do
  book.need .users
  return (book.userRow? userId).bind (·.emailHash)

end Book

end JobRelay
