import JobRelay.Book.Basic
import JobRelay.Config.Basic
import JobRelay.Job.Forms

/-! # Stuck jobs

A job is stuck when it has stood in a status under watch for longer than that status allows. The
stored time of its last move is compared as text with the cutoff.
-/

namespace JobRelay

/-- A job that has stood still for too long. -/
structure StuckJob where
  jobId : String
  userId : String
  serviceId : String
  status : JobStatus
  statusUpdatedAt : Instant
  minutesStuck : Int
deriving DecidableEq, Repr

def StuckJob.datum (job : StuckJob) : Datum :=
  .record [
    ("job_id", .text job.jobId),
    ("user_id", .text job.userId),
    ("service_id", .text job.serviceId),
    ("status", .ofNamed job.status),
    ("status_updated_at", job.statusUpdatedAt.datum),
    ("minutes_stuck", .whole job.minutesStuck)]

/-- The statuses under watch with their limits in minutes. -/
def StalenessThresholds.watched (s : StalenessThresholds) : List (JobStatus × Int) :=
  [(.dispatched, s.dispatched), (.active, s.active), (.awaitingOtp, s.awaitingOtp),
    (.outreachSent, s.outreachSent)]

namespace Book

/-- The rows in a status that last moved before a cutoff, by the text of that time. -/
def movedBefore (book : Book) (status : JobStatus) (cutoff : String) : List JobRow :=
  (book.jobs.filter fun row =>
    row.status == status.name && decide (row.statusUpdatedAt < cutoff)).mergeSort
    fun a b => !(decide (b.statusUpdatedAt < a.statusUpdatedAt))

def readStuck (status : JobStatus) (now : Instant) (row : JobRow) : Except StoreError StuckJob := do
  let updatedAt ← readInstant row.statusUpdatedAt
  return {
    jobId := row.id
    userId := row.userId
    serviceId := row.serviceId
    status
    statusUpdatedAt := updatedAt
    minutesStuck := updatedAt.minutesUntil now }

/-- The jobs stuck in one status. A limit without a representable cutoff watches nothing. -/
def stuckIn (book : Book) (now : Instant) (watched : JobStatus × Int) :
    Except StoreError (List StuckJob) :=
  match now.minusMinutes? watched.2 with
  | none => .ok []
  | some cutoff => do
    book.need .jobs
    (book.movedBefore watched.1 cutoff.stored).mapM (readStuck watched.1 now)

/-- The stuck jobs of all statuses under watch, those that have stood still longest first. -/
def findStuck (book : Book) (thresholds : StalenessThresholds) (now : Instant) :
    Except StoreError (List StuckJob) := do
  let found ← thresholds.watched.mapM (book.stuckIn now)
  return found.flatten.mergeSort fun a b => !(b.statusUpdatedAt.before a.statusUpdatedAt)

end Book

end JobRelay
