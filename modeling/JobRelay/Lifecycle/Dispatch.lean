import JobRelay.Book.Basic

/-! # Creating and claiming jobs

A new job waits in `pending`. A claim hands every listed job that still waits to the agent, once,
and passes over the others.
-/

namespace JobRelay.Book

/-- Adds a user without debt. -/
def createUser (book : Book) (id : String) (emailHash : Option String) (status : String)
    (now : Instant) : Except StoreError Book := do
  book.need .users
  if book.users.any (·.id == id) then throw (.duplicateKey .users "id")
  let row : UserRow := { id, emailHash, debtSats := 0, status, createdAt := now.stored }
  return { book with users := book.users ++ [row] }

def newJobRow (id : String) (request : NewJob) (now : Instant) : JobRow :=
  { id
    userId := request.userId
    serviceId := request.serviceId
    action := Named.name request.action
    triggerSource := Named.name request.trigger
    status := JobStatus.pending.name
    statusUpdatedAt := now.stored
    billingDate := request.billingDate.map Date.format
    createdAt := now.stored }

def insertJob (book : Book) (row : JobRow) : Except StoreError Book := do
  book.need .jobs
  book.needParent .users
  if book.jobs.any (·.id == row.id) then throw (.duplicateKey .jobs "id")
  if !book.users.any (·.id == row.userId) then throw .unknownParent
  return { book with jobs := book.jobs ++ [row] }

/-- Creates a waiting job under an id. -/
def createJob (book : Book) (id : String) (request : NewJob) (now : Instant) :
    Except StoreError (Job × Book) := do
  let book ← book.insertJob (newJobRow id request now)
  let book ← book.recordMove id none .pending .scheduler none now
  match ← book.fetchJob id with
  | some job => return (job, book)
  | none => throw .noRow

/-- Hands one job to the agent if it still waits. -/
def claimOne (book : Book) (id : String) (now : Instant) :
    Except StoreError (Option Job × Book) := do
  book.need .jobs
  match book.moveJob? id .pending .dispatched now with
  | none => return (none, book)
  | some book =>
    let book ← book.recordMove id (some .pending) .dispatched .agent none now
    return (← book.fetchJob id, book)

/-- Hands the listed jobs that still wait to the agent, in the order of the list. -/
def claim (book : Book) (now : Instant) : List String → Except StoreError (List Job × Book)
  | [] => return ([], book)
  | id :: ids => do
    let (job, book) ← book.claimOne id now
    let (jobs, book) ← book.claim now ids
    return (job.toList ++ jobs, book)

end JobRelay.Book
