import JobRelay.Book.Email
import JobRelay.Book.Maintenance
import JobRelay.Lifecycle.Dispatch
import JobRelay.Lifecycle.Progress
import JobRelay.Settlement.Basic
import Mathlib.Data.List.Induction

/-! # Sessions

A session performs operations of users, jobs and settlement on the book, one after the other and in
any order. Each operation is all or nothing: a refused one leaves the book as it was and is still
an event of the session. Facts about sessions are proved for the empty session and for one more
operation at its end.
-/

namespace JobRelay

inductive Operation where
  | createUser (id : String) (email : Option String) (status : String) (now : Instant)
  | createJob (id : String) (request : NewJob) (now : Instant)
  | claim (ids : List String) (now : Instant)
  | applyReport (id : String) (report : AgentReport) (now : Instant)
  | attachInvoice (id : String) (amountSats : Int) (invoiceId : String) (now : Instant)
  | submitOtp (id code : String)
  | takeOtp (id : String)
  | forceStatus (id : String) (next : JobStatus) (reason : String) (now : Instant)
  | settle (id : String) (now : Instant)
  | settleByInvoice (invoiceId : String) (now : Instant)
  | recordRenege (id : String) (now : Instant)
deriving DecidableEq, Repr

/-- What an operation answers. -/
inductive Reply where
  | done
  | job (job : Job)
  | jobs (jobs : List Job)
  | code (code : Option String)
deriving DecidableEq, Repr

/-- Why an operation is refused. -/
inductive Refusal where
  | store (cause : StoreError)
  | move (cause : TransitionError)
  | payment (cause : SettlementError)
deriving DecidableEq, Repr

namespace Operation

/-- A result with its refusal and its answer put among those of all operations. -/
def answer {ε α : Type} (refusal : ε → Refusal) (reply : α → Reply)
    (result : Except ε (α × Book)) : Except Refusal (Reply × Book) :=
  match result with
  | .ok (value, book) => .ok (reply value, book)
  | .error cause => .error (refusal cause)

/-- What an operation writes and answers, if it is not refused. -/
def apply (operation : Operation) (book : Book) : Except Refusal (Reply × Book) :=
  match operation with
  | createUser id email status now =>
    match book.createUser id (email.map emailKey) status now with
    | .ok book => .ok (.done, book)
    | .error cause => .error (.store cause)
  | createJob id request now => answer .store .job (book.createJob id request now)
  | claim ids now => answer .store .jobs (book.claim now ids)
  | applyReport id report now => answer .move .job (book.applyReport id report now)
  | attachInvoice id amountSats invoiceId now =>
    answer .move .job (book.attachInvoice id amountSats invoiceId now)
  | submitOtp id code =>
    match book.submitOtp id code with
    | .ok book => .ok (.done, book)
    | .error cause => .error (.move cause)
  | takeOtp id => answer .store .code (book.takeOtp id)
  | forceStatus id next reason now => answer .move .job (book.forceStatus id next reason now)
  | settle id now => answer .payment .job (book.settle id now)
  | settleByInvoice invoiceId now => answer .payment .job (book.settleByInvoice invoiceId now)
  | recordRenege id now => answer .move .job (book.recordRenege id now)

/-- Invoices are put on jobs with positive prices. -/
def Positive : Operation → Prop
  | attachInvoice _ amountSats _ _ => 0 < amountSats
  | _ => True

instance (operation : Operation) : Decidable operation.Positive := by
  unfold Positive
  split <;> infer_instance

end Operation

/-- An operation with its result. -/
structure Event where
  operation : Operation
  result : Except Refusal Reply

/-- What an event does about money. -/
inductive Deed where
  | nothing
  | invoiced (id : String) (amountSats : Int)
  | settled (job : Job)
  | writtenOff (id : String)
deriving DecidableEq, Repr

/-- What an event does about money. A refused operation does nothing. -/
def Event.deed : Event → Deed
  | ⟨.attachInvoice id amountSats _ _, .ok _⟩ => .invoiced id amountSats
  | ⟨.settle _ _, .ok (.job job)⟩ => .settled job
  | ⟨.settleByInvoice _ _, .ok (.job job)⟩ => .settled job
  | ⟨.recordRenege id _, .ok _⟩ => .writtenOff id
  | _ => .nothing

namespace Deed

/-- The amount put on a job. -/
def attachedSats : Deed → Int
  | invoiced _ amountSats => amountSats
  | _ => 0

def settled? : Deed → Option Job
  | settled job => some job
  | _ => none

def writesOff (id : String) : Deed → Bool
  | writtenOff other => other == id
  | _ => false

end Deed

namespace Book

/-- Performs an operation; a refused one leaves the book as it was. -/
def perform (book : Book) (operation : Operation) : Except Refusal Reply × Book :=
  book.atomically operation.apply

/-- Performs operations one after the other and tells what happened, the first event first. -/
def session (book : Book) : List Operation → List Event × Book
  | [] => ([], book)
  | operation :: rest =>
    let (result, next) := book.perform operation
    let (events, last) := next.session rest
    (⟨operation, result⟩ :: events, last)

variable {book : Book}

theorem session_append (book : Book) (first second : List Operation) :
    book.session (first ++ second) =
      ((book.session first).1 ++ ((book.session first).2.session second).1,
        ((book.session first).2.session second).2) := by
  induction first generalizing book with
  | nil => rfl
  | cons operation rest ih => simp only [List.cons_append, session, ih]

private theorem session_concat (book : Book) (operations : List Operation) (operation : Operation) :
    book.session (operations ++ [operation]) =
      ((book.session operations).1 ++ [⟨operation, ((book.session operations).2.perform operation).1⟩],
        ((book.session operations).2.perform operation).2) := by
  rw [session_append]
  rfl

/-- What holds of the empty book and is kept by every further operation holds after every
session. -/
theorem session_induction {motive : List Event → Book → Prop} (allowed : Operation → Prop)
    (start : motive [] .empty)
    (step : ∀ events book operation, allowed operation → motive events book →
      motive (events ++ [⟨operation, (book.perform operation).1⟩]) (book.perform operation).2)
    (operations : List Operation) (all : ∀ operation ∈ operations, allowed operation) :
    motive (Book.empty.session operations).1 (Book.empty.session operations).2 := by
  induction operations using List.reverseRecOn with
  | nil => exact start
  | append_singleton operations operation ih =>
    rw [session_concat]
    apply step
    · exact all operation (by simp)
    · exact ih fun other member => all other (by simp [member])

end Book

/-- Two jobs of two users with one email are written off. An operator forces the one on; the other
is paid late, and the payment is delivered twice. -/
def writeOffs (email : Option String) : List Operation :=
  [.createUser "u" email "active" ⟨0, 0⟩,
   .createUser "v" email "active" ⟨0, 0⟩,
   .createJob "j" ⟨"u", "s", .cancel, .scheduled, none⟩ ⟨1, 0⟩,
   .createJob "k" ⟨"v", "s", .resume, .onDemand, none⟩ ⟨1, 0⟩,
   .claim ["j", "k"] ⟨2, 0⟩,
   .attachInvoice "j" 700 "i" ⟨3, 0⟩,
   .attachInvoice "k" 300 "l" ⟨3, 0⟩,
   .recordRenege "j" ⟨4, 0⟩,
   .recordRenege "k" ⟨4, 0⟩,
   .forceStatus "j" .failed "closed" ⟨5, 0⟩,
   .settle "j" ⟨6, 0⟩,
   .settle "k" ⟨6, 0⟩,
   .settleByInvoice "l" ⟨7, 0⟩]

end JobRelay
