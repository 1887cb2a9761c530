import JobRelay.Book.Basic

/-! # Maintenance

Changes to the book from outside the lifecycle of jobs: single cells, removed users, tables dropped
and put back. The constraints of the tables hold for them too.
-/

namespace JobRelay

/-- What a cell holds. -/
inductive Cell where
  | null
  | whole (n : Int)
  | text (s : String)
deriving DecidableEq, Repr

namespace Cell

/-- The cell in a column of text. -/
def asText : Cell → Option String
  | null => none
  | whole n => some (toString n)
  | text s => some s

/-- The cell in a column of whole numbers, if it is one. -/
def asWhole : Cell → Option Int
  | null => none
  | whole n => some n
  | text s => Text.int64? s

end Cell

namespace Book

/-- A job row with one column replaced; none for an unknown column or a cell that it cannot hold. -/
def setJobCell (row : JobRow) (column : String) (cell : Cell) : Option JobRow :=
  match column with
  | "id" => cell.asText.map fun s => { row with id := s }
  | "user_id" => cell.asText.map fun s => { row with userId := s }
  | "service_id" => cell.asText.map fun s => { row with serviceId := s }
  | "action" => cell.asText.map fun s => { row with action := s }
  | "trigger_source" => cell.asText.map fun s => { row with triggerSource := s }
  | "status" => cell.asText.map fun s => { row with status := s }
  | "status_updated_at" => cell.asText.map fun s => { row with statusUpdatedAt := s }
  | "billing_date" => some { row with billingDate := cell.asText }
  | "access_end_date" => some { row with accessEndDate := cell.asText }
  | "outreach_count" => cell.asWhole.map fun n => { row with outreachCount := n }
  | "next_outreach_at" => some { row with nextOutreachAt := cell.asText }
  | "amount_sats" => some { row with amountSats := cell.asWhole }
  | "invoice_id" => some { row with invoiceId := cell.asText }
  | "otp_code" => some { row with otpCode := cell.asText }
  | "created_at" => cell.asText.map fun s => { row with createdAt := s }
  | _ => none

def setUserCell (row : UserRow) (column : String) (cell : Cell) : Option UserRow :=
  match column with
  | "id" => cell.asText.map fun s => { row with id := s }
  | "email_hash" => some { row with emailHash := cell.asText }
  | "debt_sats" => cell.asWhole.map fun n => { row with debtSats := n }
  | "status" => cell.asText.map fun s => { row with status := s }
  | "created_at" => cell.asText.map fun s => { row with createdAt := s }
  | _ => none

def setHistoryCell (row : HistoryRow) (column : String) (cell : Cell) : Option HistoryRow :=
  match column with
  | "job_id" => cell.asText.map fun s => { row with jobId := s }
  | "from_status" => some { row with fromStatus := cell.asText }
  | "to_status" => cell.asText.map fun s => { row with toStatus := s }
  | "actor" => cell.asText.map fun s => { row with actor := s }
  | "reason" => some { row with reason := cell.asText }
  | "created_at" => cell.asText.map fun s => { row with createdAt := s }
  | _ => none

def setTransactionCell (row : TransactionRow) (column : String) (cell : Cell) :
    Option TransactionRow :=
  match column with
  | "job_id" => cell.asText.map fun s => { row with jobId := s }
  | "user_id" => cell.asText.map fun s => { row with userId := s }
  | "amount_sats" => some { row with amountSats := cell.asWhole }
  | "invoice_id" => some { row with invoiceId := cell.asText }
  | "status" => cell.asText.map fun s => { row with status := s }
  | "paid_at" => some { row with paidAt := cell.asText }
  | "created_at" => cell.asText.map fun s => { row with createdAt := s }
  | _ => none

def setBlocklistCell (row : BlocklistRow) (column : String) (cell : Cell) : Option BlocklistRow :=
  match column with
  | "email_hash" => cell.asText.map fun s => { row with emailHash := s }
  | "debt_sats" => cell.asWhole.map fun n => { row with debtSats := n }
  | "updated_at" => cell.asText.map fun s => { row with updatedAt := s }
  | _ => none

def setAlertCell (row : AlertRow) (column : String) (cell : Cell) : Option AlertRow :=
  match column with
  | "alert_type" => cell.asText.map fun s => { row with alertType := s }
  | "severity" => cell.asText.map fun s => { row with severity := s }
  | "title" => cell.asText.map fun s => { row with title := s }
  | "message" => cell.asText.map fun s => { row with message := s }
  | "job_id" => some { row with jobId := cell.asText }
  | "user_id" => some { row with userId := cell.asText }
  | "acknowledged" => cell.asWhole.map fun n => { row with acknowledged := n }
  | "created_at" => cell.asText.map fun s => { row with createdAt := s }
  | _ => none

/-- Changes the rows that a test picks out; the others and those that cannot be changed stay. -/
def updateWhere {α : Type} (rows : List α) (picked : α → Bool) (update : α → Option α) : List α :=
  rows.map fun row => if picked row then (update row).getD row else row

/-- Whether a key comes twice. -/
def hasTwice {α : Type} [BEq α] : List α → Bool
  | [] => false
  | a :: rest => rest.contains a || hasTwice rest

def jobsHaveUsers (book : Book) : Bool :=
  book.jobs.all fun row => book.users.any (·.id == row.userId)

/-- Whether every move and every payment record has its job. -/
def recordsHaveJobs (book : Book) : Bool :=
  (book.history.all fun row => book.jobs.any (·.id == row.jobId)) &&
    book.transactions.all fun row => book.jobs.any (·.id == row.jobId)

/-- The constraints of a table after a change to it. -/
def constrain (book : Book) : Table → Except StoreError Book
  | .users => do
    if book.users.any (·.debtSats < 0) then throw .negativeDebt
    if hasTwice (book.users.map (·.id)) then throw (.duplicateKey .users "id")
    if !book.missing.contains .jobs && !book.jobsHaveUsers then throw .unknownParent
    return book
  | .jobs => do
    if hasTwice (book.jobs.map (·.id)) then throw (.duplicateKey .jobs "id")
    if hasTwice (book.jobs.filterMap (·.invoiceId)) then throw .duplicateInvoice
    if !book.missing.contains .users && !book.jobsHaveUsers then throw .unknownParent
    if !book.recordsHaveJobs then throw .unknownParent
    return book
  | .history => if book.recordsHaveJobs then .ok book else .error .unknownParent
  | .transactions => do
    if hasTwice (book.transactions.map (·.jobId)) then throw (.duplicateKey .transactions "job_id")
    if !book.recordsHaveJobs then throw .unknownParent
    return book
  | .blocklist => do
    if book.blocklist.any (·.debtSats < 0) then throw .negativeDebt
    if hasTwice (book.blocklist.map (·.emailHash)) then
      throw (.duplicateKey .blocklist "email_hash")
    return book
  | .ledger | .alerts => .ok book

/-- Replaces one column in the rows under a key; tells how many rows that are. Moves and payment
records go by their job, the blocklist by its hash, all other tables by their id. -/
def setColumn (book : Book) (table : Table) (key column : String) (cell : Cell) :
    Except StoreError (Nat × Book) := do
  book.need table
  let count ←
    match table with
    | .users => pure (book.users.countP (·.id == key))
    | .jobs => do
      if column == "user_id" then book.needParent .users
      pure (book.jobs.countP (·.id == key))
    | .history => pure (book.history.countP (·.jobId == key))
    | .transactions => pure (book.transactions.countP (·.jobId == key))
    | .ledger =>
      if book.ledger.any fun row => toString row.id == key then throw .appendOnly else pure 0
    | .blocklist => pure (book.blocklist.countP (·.emailHash == key))
    | .alerts => pure (book.alerts.countP fun row => toString row.id == key)
  let changed : Book :=
    match table with
    | .users => { book with
        users := updateWhere book.users (·.id == key) (setUserCell · column cell) }
    | .jobs => { book with
        jobs := updateWhere book.jobs (·.id == key) (setJobCell · column cell) }
    | .history => { book with
        history := updateWhere book.history (·.jobId == key) (setHistoryCell · column cell) }
    | .transactions => { book with
        transactions :=
          updateWhere book.transactions (·.jobId == key) (setTransactionCell · column cell) }
    | .ledger => book
    | .blocklist => { book with
        blocklist :=
          updateWhere book.blocklist (·.emailHash == key) (setBlocklistCell · column cell) }
    | .alerts => { book with
        alerts :=
          updateWhere book.alerts (fun row => toString row.id == key) (setAlertCell · column cell) }
  return (count, ← changed.constrain table)

/-- Puts a job into a status as of a stored time; tells how many rows that are. -/
def placeJob (book : Book) (id : String) (status statusUpdatedAt : String) :
    Except StoreError (Nat × Book) := do
  book.need .jobs
  return (book.jobs.countP (·.id == id),
    book.updateJob id fun row => { row with status, statusUpdatedAt })

/-- The book without some jobs, their moves and their payment records. -/
def withoutJobs (book : Book) (gone : JobRow → Bool) : Book :=
  let ids := (book.jobs.filter gone).map (·.id)
  { book with
    jobs := book.jobs.filter fun row => !gone row
    history := book.history.filter fun row => !ids.contains row.jobId
    transactions := book.transactions.filter fun row => !ids.contains row.jobId }

/-- Removes a user with all jobs; tells how many users that are. -/
def deleteUser (book : Book) (id : String) : Except StoreError (Nat × Book) := do
  book.need .users
  let count := book.users.countP (·.id == id)
  let book := if count = 0 then book else book.withoutJobs (·.userId == id)
  return (count, { book with users := book.users.filter (·.id != id) })

/-- Entries of the revenue ledger are not removed. -/
def deleteLedgerEntry (book : Book) (id : String) : Except StoreError Nat := do
  book.need .ledger
  if book.ledger.any fun row => toString row.id == id then throw .appendOnly
  return 0

/-- Drops a table, after what refers to its rows. -/
def dropTable (book : Book) (table : Table) : Except StoreError Book := do
  book.need table
  let book := { book with missing := table :: book.missing }
  return match table with
    | .users =>
      let ids := book.users.map (·.id)
      { book.withoutJobs fun row => ids.contains row.userId with users := [] }
    | .jobs => book.withoutJobs fun _ => true
    | .history => { book with history := [], lastHistory := 0 }
    | .transactions => { book with transactions := [] }
    | .ledger => { book with ledger := [], lastLedger := 0 }
    | .blocklist => { book with blocklist := [] }
    | .alerts => { book with alerts := [], lastAlert := 0 }

/-- Puts dropped tables back, empty. -/
def ensureTables (book : Book) : Book :=
  { book with missing := [] }

/-- Adds a debt under an email hash that has none. -/
def insertBlocklist (book : Book) (row : BlocklistRow) : Except StoreError Book := do
  book.need .blocklist
  if row.debtSats < 0 then throw .negativeDebt
  if book.blocklist.any (·.emailHash == row.emailHash) then
    throw (.duplicateKey .blocklist "email_hash")
  return { book with blocklist := book.blocklist ++ [row] }

/-- Runs some writes as one operation: all of them count, or none. -/
def atomically {α ε : Type} (book : Book) (writes : Book → Except ε (α × Book)) :
    Except ε α × Book :=
  match writes book with
  | .ok (value, book) => (.ok value, book)
  | .error fault => (.error fault, book)

end Book

end JobRelay
