import JobRelay.Proofs.Money.Blocklist
import JobRelay.Proofs.Money.Debt
import JobRelay.Proofs.Money.Overrides
import JobRelay.Proofs.Money.Records

/-! # Payments and write-offs of different jobs commute

Closing the payment of a job reads no row but the job's own, so it answers the same whatever was
closed before it. It also writes to the debt of a user and to the row of an email hash, which other
jobs share. Those are not compared step by step: in both orders the same jobs are left unsettled and
written off, and the debts are sums over these.
-/

namespace JobRelay

/-! ## Rows without their order -/

def UserRow.debtless (row : UserRow) : UserRow := { row with debtSats := 0 }

def HistoryRow.unnumbered (row : HistoryRow) : HistoryRow := { row with id := 0 }

def LedgerRow.unnumbered (row : LedgerRow) : LedgerRow := { row with id := 0 }

namespace Book

variable {book middle after : Book}

/-- Two books with the same rows. Tables that rows are added to may differ in their order, and
numbered rows in their numbers. -/
structure SameRecords (book other : Book) : Prop where
  users : other.users = book.users
  jobs : other.jobs = book.jobs
  transactions : other.transactions.Perm book.transactions
  blocklist : other.blocklist.Perm book.blocklist
  history : (other.history.map HistoryRow.unnumbered).Perm
    (book.history.map HistoryRow.unnumbered)
  ledger : (other.ledger.map LedgerRow.unnumbered).Perm (book.ledger.map LedgerRow.unnumbered)
  alerts : other.alerts = book.alerts
  lastHistory : other.lastHistory = book.lastHistory
  lastLedger : other.lastLedger = book.lastLedger
  lastAlert : other.lastAlert = book.lastAlert
  missing : other.missing = book.missing

private theorem SameRecords.refl (book : Book) : SameRecords book book :=
  ⟨rfl, rfl, .refl _, .refl _, .refl _, .refl _, rfl, rfl, rfl, rfl, rfl⟩

private theorem SameRecords.symm {other : Book} (same : SameRecords book other) :
    SameRecords other book :=
  ⟨same.users.symm, same.jobs.symm, same.transactions.symm, same.blocklist.symm,
    same.history.symm, same.ledger.symm, same.alerts.symm, same.lastHistory.symm,
    same.lastLedger.symm, same.lastAlert.symm, same.missing.symm⟩

/-- Two operations answer the same and leave the same rows in either order. -/
structure Commutes (book : Book) (first second : Operation) : Prop where
  firstAnswer : ((book.perform second).2.perform first).1 = (book.perform first).1
  secondAnswer : ((book.perform first).2.perform second).1 = (book.perform second).1
  records : SameRecords ((book.perform first).2.perform second).2
    ((book.perform second).2.perform first).2

private theorem Commutes.symm {first second : Operation} (commutes : book.Commutes first second) :
    book.Commutes second first :=
  ⟨commutes.secondAnswer, commutes.firstAnswer, commutes.records.symm⟩

end Book

/-! ## Closing a payment -/

/-- How the payment of a job is closed: it is paid, or written off. -/
inductive Closing where
  | settlement
  | writeOff
deriving DecidableEq, Repr

/-- The operation that closes the payment of a job. -/
def Closing.operation (id : String) (now : Instant) : Closing → Operation
  | settlement => .settle id now
  | writeOff => .recordRenege id now

/-- What is booked when the payment of a job is closed. -/
inductive Booking where
  | paid (job : Job) (next : JobStatus) (paymentStatus : String)
  | writtenOff (job : Job)

namespace Booking

open Book

/-- The job that is closed. -/
def job : Booking → Job
  | paid job _ _ => job
  | writtenOff job => job

/-- Where the job is moved. -/
def next : Booking → JobStatus
  | paid _ next _ => next
  | writtenOff _ => .completedReneged

/-- The book with a booking written into it. -/
def write (book : Book) (now : Instant) : Booking → Book
  | paid job next paymentStatus => book.settled job next paymentStatus now
  | writtenOff job => book.writtenOff job now

/-- The payment record that is written over the one that is there, if there is one. -/
def record (now : Instant) (found : Option TransactionRow) : Booking → TransactionRow
  | paid job _ paymentStatus =>
    found.elim (transactionOf job paymentStatus (some now.stored) now) fun row =>
      { row with status := paymentStatus, paidAt := some now.stored }
  | writtenOff job =>
    found.elim (transactionOf job "reneged" none now) fun row => { row with status := "reneged" }

/-- The move that is recorded, without its number. -/
def move (now : Instant) (booking : Booking) : HistoryRow :=
  { id := 0
    jobId := booking.job.id
    fromStatus := some booking.job.status.name
    toStatus := booking.next.name
    actor := Named.name Actor.settlement
    reason := none
    createdAt := now.stored }

/-- The entries of the ledger that are added, without their numbers. -/
def revenue (now : Instant) : Booking → List LedgerRow
  | paid job _ paymentStatus =>
    (positivePrice job).toList.map fun amountSats =>
      { id := 0
        jobId := job.id
        serviceId := job.serviceId
        action := Named.name job.action
        amountSats
        paymentStatus
        recordedAt := now.stored }
  | writtenOff _ => []

/-- The email hash whose row of the blocklist is written. -/
def touched (book : Book) : Booking → Option String
  | paid job _ paymentStatus =>
    if paymentStatus = "eventual" then (book.charge job).map Prod.fst else none
  | writtenOff job => (book.charge job).map Prod.fst

private theorem touched_congr {book after : Book} (same : SameUsers book after)
    (booking : Booking) : booking.touched after = booking.touched book := by
  cases booking <;> simp only [touched, charge, same.hashOf_eq]

end Booking

namespace Book

variable {book middle after : Book}

/-! ## What a booking writes -/

/-- The rows under some hashes are dated, and all others are what they were. -/
structure DatedUnder (written : String → Prop) (now : Instant) (rows others : List BlocklistRow) :
    Prop where
  dated : ∀ row ∈ others, written row.emailHash → row.updatedAt = now.stored
  kept : ∀ row, ¬written row.emailHash → (row ∈ others ↔ row ∈ rows)

private theorem DatedUnder.trans {written again : String → Prop} {now : Instant}
    {rows others last : List BlocklistRow} (earlier : DatedUnder written now rows others)
    (later : DatedUnder again now others last) :
    DatedUnder (fun hash => written hash ∨ again hash) now rows last where
  dated := by
    intro row present either
    by_cases new : again row.emailHash
    · exact later.dated row present new
    · exact earlier.dated row ((later.kept row new).mp present) (either.resolve_right new)
  kept := by
    intro row neither
    rw [not_or] at neither
    rw [later.kept row neither.2, earlier.kept row neither.1]

private theorem datedUnder_refl {written : String → Prop} (unwritten : ∀ hash, ¬written hash)
    (now : Instant) (rows : List BlocklistRow) : DatedUnder written now rows rows :=
  ⟨fun row _ new => (unwritten row.emailHash new).elim, fun _ _ => Iff.rfl⟩

private theorem datedUnder_changedRows (rows : List BlocklistRow) (hash : String)
    (change : Int → Int) (now : Instant) :
    DatedUnder (some hash = some ·) now rows (changedRows rows hash change now) where
  dated := by
    intro row present same
    obtain ⟨old, _, rfl⟩ := List.mem_map.mp present
    by_cases here : old.emailHash = hash
    · rw [if_pos here]
    · rw [if_neg here, Option.some.injEq] at same
      exact (here same.symm).elim
  kept := by
    intro row apart
    have other : row.emailHash ≠ hash := fun same => apart (congrArg some same.symm)
    constructor
    · intro present
      obtain ⟨old, member, rfl⟩ := List.mem_map.mp present
      by_cases here : old.emailHash = hash
      · rw [if_pos here] at other
        exact (other here).elim
      · rwa [if_neg here]
    · intro member
      exact List.mem_map.mpr ⟨row, member, if_neg other⟩

private theorem datedUnder_raisedRows (rows : List BlocklistRow) (hash : String) (amountSats : Int)
    (now : Instant) :
    DatedUnder (some hash = some ·) now rows (raisedRows rows hash amountSats now) := by
  unfold raisedRows
  split
  · exact datedUnder_changedRows rows hash (Amount.add · amountSats) now
  · rename_i absent
    refine ⟨?_, ?_⟩
    · intro row present same
      rcases List.mem_append.mp present with old | new
      · have known : rows.any (·.emailHash == hash) :=
          List.any_eq_true.mpr ⟨row, old, by simpa using (Option.some.inj same).symm⟩
        exact (absent known).elim
      · rw [List.mem_singleton.mp new]
    · intro row apart
      rw [List.mem_append, List.mem_singleton]
      refine ⟨fun present => present.resolve_right ?_, .inl⟩
      rintro rfl
      exact apart rfl

private theorem datedUnder_loweredRows (rows : List BlocklistRow) (hash : String) (amountSats : Int)
    (now : Instant) :
    DatedUnder (some hash = some ·) now rows (loweredRows rows hash amountSats now) := by
  have changed := datedUnder_changedRows rows hash (Amount.lower · amountSats) now
  refine ⟨fun row present => changed.dated row (List.mem_of_mem_filter present), ?_⟩
  intro row apart
  have other : row.emailHash ≠ hash := fun same => apart (congrArg some same.symm)
  rw [← changed.kept row apart, loweredRows, List.mem_filter]
  simp [changedRows, other]

private theorem datedUnder_write (booking : Booking) (now : Instant) :
    DatedUnder (booking.touched book = some ·) now book.blocklist
      (booking.write book now).blocklist := by
  cases booking with
  | paid job next paymentStatus =>
    show DatedUnder _ now _ (book.paidOffRows job paymentStatus now)
    rw [Booking.touched, paidOffRows]
    by_cases late : paymentStatus = "eventual"
    · rw [if_pos late]
      cases book.charge job with
      | none => exact datedUnder_refl (by simp) now book.blocklist
      | some charge =>
        simpa [late] using datedUnder_loweredRows book.blocklist charge.1 charge.2 now
    · rw [if_neg late]
      cases book.charge job <;> simpa [late] using datedUnder_refl (by simp) now book.blocklist
  | writtenOff job =>
    show DatedUnder _ now _ (book.dunnedRows job now)
    rw [Booking.touched, dunnedRows]
    cases book.charge job with
    | none => exact datedUnder_refl (by simp) now book.blocklist
    | some charge => exact datedUnder_raisedRows book.blocklist charge.1 charge.2 now

/-- Rows with the same debts, of which the same ones were dated, are the same. -/
private theorem DatedUnder.mem_of_mem {written : String → Prop} {now : Instant}
    {rows others last : List BlocklistRow} (dated : DatedUnder written now rows others)
    (lastDated : DatedUnder written now rows last) (keyed : (others.map (·.emailHash)).Nodup)
    (debts : ∀ hash, debtUnder last hash = debtUnder others hash) {row : BlocklistRow}
    (present : row ∈ others) : row ∈ last := by
  by_cases new : written row.emailHash
  · have owed : debtUnder others row.emailHash = some row.debtSats := by
      rw [debtUnder, find?_of_mem keyed present]
      rfl
    rw [← debts, debtUnder, Option.map_eq_some_iff] at owed
    obtain ⟨twin, here, debt⟩ := owed
    have listed := List.mem_of_find?_eq_some here
    have shared : twin.emailHash = row.emailHash := by simpa using List.find?_some here
    have same : twin = row := by
      cases twin
      cases row
      simp only [BlocklistRow.mk.injEq] at *
      exact ⟨shared, debt, (lastDated.dated _ listed (shared ▸ new)).trans
        (dated.dated _ present new).symm⟩
    exact same ▸ listed
  · exact (lastDated.kept row new).mpr ((dated.kept row new).mp present)

private theorem DatedUnder.perm {written : String → Prop} {now : Instant}
    {rows others last : List BlocklistRow} (dated : DatedUnder written now rows others)
    (lastDated : DatedUnder written now rows last) (keyed : (others.map (·.emailHash)).Nodup)
    (lastKeyed : (last.map (·.emailHash)).Nodup)
    (debts : ∀ hash, debtUnder last hash = debtUnder others hash) : last.Perm others := by
  rw [List.perm_ext_iff_of_nodup lastKeyed.of_map keyed.of_map]
  intro row
  exact ⟨lastDated.mem_of_mem dated lastKeyed fun hash => (debts hash).symm,
    dated.mem_of_mem lastDated keyed debts⟩

/-- What a booking writes, as far as it does not depend on what was booked before. -/
structure Booked (booking : Booking) (now : Instant) (book after : Book) : Prop where
  users : after.users.map UserRow.debtless = book.users.map UserRow.debtless
  jobs : after.jobs = updateJobs book.jobs booking.job.id (movedRow booking.next now)
  records : ∀ id, after.transactionRow? id =
    if id = booking.job.id then some (booking.record now (book.transactionRow? id))
    else book.transactionRow? id
  blocklist : DatedUnder (booking.touched book = some ·) now book.blocklist after.blocklist
  history : after.history.map HistoryRow.unnumbered =
    book.history.map HistoryRow.unnumbered ++ [booking.move now]
  ledger : after.ledger.map LedgerRow.unnumbered =
    book.ledger.map LedgerRow.unnumbered ++ booking.revenue now
  alerts : after.alerts = book.alerts
  lastHistory : after.lastHistory = book.lastHistory + 1
  lastLedger : after.lastLedger = book.lastLedger + (booking.revenue now).length
  lastAlert : after.lastAlert = book.lastAlert
  missing : after.missing = book.missing

private theorem map_debtless_debtRows (users : List UserRow) (userId : String)
    (change : Int → Int) :
    (debtRows users userId change).map UserRow.debtless = users.map UserRow.debtless :=
  map_changedUnder fun _ _ => rfl

private theorem booked_write (book : Book) (booking : Booking) (now : Instant) :
    Booked booking now book (booking.write book now) where
  users := by
    cases booking with
    | paid job next paymentStatus =>
      rw [Booking.write, settled]
      cases positivePrice job with
      | none => rfl
      | some amountSats =>
        exact map_debtless_debtRows book.users job.userId (Amount.lower · amountSats)
    | writtenOff job => rfl
  jobs := by cases booking <;> rfl
  records := by
    intro id
    cases booking with
    | paid job next paymentStatus =>
      exact transactionRow?_of_recordRows book (book.settled job next paymentStatus now) rfl
        (fun _ => rfl) id
    | writtenOff job =>
      exact transactionRow?_of_recordRows book (book.writtenOff job now) rfl (fun _ => rfl) id
  blocklist := datedUnder_write booking now
  history := by cases booking <;> exact List.map_append
  ledger := by
    cases booking with
    | paid job next paymentStatus =>
      rw [Booking.write, settled, List.map_append, List.map_map]
      rfl
    | writtenOff job => exact (List.append_nil _).symm
  alerts := by cases booking <;> rfl
  lastHistory := by cases booking <;> rfl
  lastLedger := by
    cases booking with
    | paid job next paymentStatus => rw [Booking.revenue, List.length_map]; rfl
    | writtenOff job => rfl
  lastAlert := by cases booking <;> rfl
  missing := by cases booking <;> rfl

private theorem Booked.sameUsers {booking : Booking} {now : Instant}
    (booked : Booked booking now book after) : SameUsers book after := by
  have read (users : List UserRow) : users.map (fun user => (user.id, user.emailHash)) =
      (users.map UserRow.debtless).map fun user => (user.id, user.emailHash) := by
    rw [List.map_map]
    rfl
  rw [SameUsers, read, booked.users, ← read]

/-- The row of another job is found as it was. -/
private theorem Booked.jobRow?_of_ne {booking : Booking} {now : Instant}
    (booked : Booked booking now book after) {id : String} (apart : id ≠ booking.job.id) :
    after.jobRow? id = book.jobRow? id := by
  have keeps (row : JobRow) (here : row.id = booking.job.id) :
      (movedRow booking.next now row).id = booking.job.id := (movedRow_id _ _ row).trans here
  rw [jobRow?, booked.jobs]
  exact (find?_changedUnder keeps id).trans (if_neg apart)

/-! ## The row of a job decides -/

/-- What is found under an id is nothing, a row of that id that can be read, or what no book of a
session holds there. -/
private theorem jobRow?_cases (id : String) (found : Option JobRow) :
    found = none ∨ (∃ row job, found = some row ∧ row.id = id ∧ readJob row = .ok job) ∨
      ∀ book : Book, book.Intact → book.jobRow? id ≠ found := by
  cases found with
  | none => exact .inl rfl
  | some row =>
    by_cases legible : row.id = id ∧ ∃ job, readJob row = .ok job
    · obtain ⟨same, job, read⟩ := legible
      exact .inr (.inl ⟨row, job, rfl, same, read⟩)
    · refine .inr (.inr fun book intact here => ?_)
      obtain ⟨member, same⟩ := jobRow?_eq_some here
      exact legible ⟨same, intact.readable row member⟩

private theorem settle_cases (id : String) (now : Instant) (found : Option JobRow) :
    (∃ cause, ∀ book : Book, book.Intact → book.jobRow? id = found →
      book.settle id now = .error cause) ∨
    ∃ answer job next paymentStatus, job.id = id ∧
      ∀ book : Book, book.Intact → book.jobRow? id = found →
        book.settle id now = .ok (answer, book.settled job next paymentStatus now) := by
  rcases jobRow?_cases id found with rfl | ⟨row, job, rfl, rfl, read⟩ | strange
  · exact .inl ⟨.notFound id, fun book intact absent => settle_of_absent intact absent now⟩
  · have member {book : Book} (here : book.jobRow? row.id = some row) : row ∈ book.jobs :=
      (jobRow?_eq_some here).1
    by_cases paid : job.status.isPaid
    · exact .inl ⟨_, fun book intact here => settle_of_paid intact (member here) read paid now⟩
    · have unpaid : job.status.isPaid = false := by simpa using paid
      cases target : settlementTarget job with
      | error cause =>
        exact .inl ⟨cause, fun book intact here =>
          settle_of_refused intact (member here) read unpaid target now⟩
      | ok outcome =>
        obtain ⟨next, paymentStatus⟩ := outcome
        cases answered : readJob (movedRow next now row) with
        | error fault =>
          refine .inl ⟨.store fault, fun book intact here => ?_⟩
          rw [settle_eq intact (member here) read unpaid target, answered]
        | ok answer =>
          refine .inr ⟨answer, job, next, paymentStatus, (shows_of_readJob read).id, ?_⟩
          intro book intact here
          rw [settle_eq intact (member here) read unpaid target, answered]
  · exact .inl ⟨.notFound id, fun book intact here => (strange book intact here).elim⟩

private theorem recordRenege_cases (id : String) (now : Instant) (found : Option JobRow) :
    (∃ cause, ∀ book : Book, book.Intact → book.jobRow? id = found →
      book.recordRenege id now = .error cause) ∨
    ∃ answer job, job.id = id ∧ ∀ book : Book, book.Intact → book.jobRow? id = found →
      book.recordRenege id now = .ok (answer, book.writtenOff job now) := by
  rcases jobRow?_cases id found with rfl | ⟨row, job, rfl, rfl, read⟩ | strange
  · exact .inl ⟨.notFound id, fun book intact absent => recordRenege_of_absent intact absent now⟩
  · have member {book : Book} (here : book.jobRow? row.id = some row) : row ∈ book.jobs :=
      (jobRow?_eq_some here).1
    cases edge : job.status.canMoveTo .completedReneged with
    | false =>
      exact .inl ⟨_, fun book intact here =>
        recordRenege_of_refused intact (member here) read edge now⟩
    | true =>
      cases answered : readJob (movedRow .completedReneged now row) with
      | error fault =>
        refine .inl ⟨.store fault, fun book intact here => ?_⟩
        rw [recordRenege_eq intact (member here) read edge, answered]
      | ok answer =>
        refine .inr ⟨answer, job, (shows_of_readJob read).id, fun book intact here => ?_⟩
        rw [recordRenege_eq intact (member here) read edge, answered]
  · exact .inl ⟨.notFound id, fun book intact here => (strange book intact here).elim⟩

/-- Closing the payment of a job does the same on every book of a session in which the same is
found under its id: it is refused without a trace, or it answers and books something. -/
theorem closing_cases (closing : Closing) (id : String) (now : Instant) (found : Option JobRow) :
    (∃ cause, ∀ book : Book, book.Intact → book.jobRow? id = found →
      book.perform (closing.operation id now) = (.error cause, book)) ∨
    ∃ (reply : Reply) (booking : Booking), booking.job.id = id ∧
      ∀ book : Book, book.Intact → book.jobRow? id = found →
        book.perform (closing.operation id now) = (.ok reply, booking.write book now) := by
  cases closing with
  | settlement =>
    rcases settle_cases id now found with ⟨cause, refused⟩ | ⟨answer, job, next, word, same, done⟩
    · refine .inl ⟨.payment cause, fun book intact here => ?_⟩
      rw [Closing.operation, perform, atomically, Operation.apply, refused book intact here]
      rfl
    · refine .inr ⟨.job answer, .paid job next word, same, fun book intact here => ?_⟩
      rw [Closing.operation, perform, atomically, Operation.apply, done book intact here]
      rfl
  | writeOff =>
    rcases recordRenege_cases id now found with ⟨cause, refused⟩ | ⟨answer, job, same, done⟩
    · refine .inl ⟨.move cause, fun book intact here => ?_⟩
      rw [Closing.operation, perform, atomically, Operation.apply, refused book intact here]
      rfl
    · refine .inr ⟨.job answer, .writtenOff job, same, fun book intact here => ?_⟩
      rw [Closing.operation, perform, atomically, Operation.apply, done book intact here]
      rfl

/-! ## What holds of every session -/

/-- What is known of a book after a session in which less than the greatest amount is invoiced. -/
structure Balanced (book : Book) : Prop where
  intact : book.Intact
  coherent : book.Coherent
  owned : book.RecordsOwned
  indebted : book.Indebted
  blocked : book.Blocked
  bounded : book.allPrices ≤ Text.maxInt64

private theorem Closing.deed_eq (closing : Closing) (id : String) (now : Instant)
    (result : Except Refusal Reply) :
    Deed.Positive (Event.deed ⟨closing.operation id now, result⟩) ∧
      Deed.attachedSats (Event.deed ⟨closing.operation id now, result⟩) = 0 := by
  cases closing <;> rcases result with _ | _ | _ | _ | _ <;> exact ⟨trivial, rfl⟩

/-- Closing a payment invoices nothing, so the book stays balanced. -/
private theorem Balanced.close (balanced : book.Balanced) (closing : Closing) (id : String)
    (now : Instant) : (book.perform (closing.operation id now)).2.Balanced := by
  obtain ⟨intact, coherent, owned, indebted, blocked, bounded⟩ := balanced
  have change := perform_change intact.jobsKeyed (closing.operation id now)
  obtain ⟨positive, unpriced⟩ :=
    Closing.deed_eq closing id now (book.perform (closing.operation id now)).1
  have prices := change.allPrices coherent positive
  rw [unpriced, Int.add_zero] at prices
  have below : (book.perform (closing.operation id now)).2.allPrices ≤ Text.maxInt64 :=
    prices ▸ bounded
  exact ⟨intact.perform _, coherent.change positive change, owned.change change,
    indebted.change coherent positive below change, blocked.change coherent positive below change,
    below⟩

/-- Alerts carry no money. -/
private theorem Balanced.withAlerts (balanced : book.Balanced) (alerts : List AlertRow)
    (lastAlert : Nat) : Balanced { book with alerts, lastAlert } where
  intact := balanced.intact.withAlerts alerts lastAlert
  coherent := balanced.coherent.withAlerts alerts lastAlert
  owned := ⟨balanced.owned.keyed, balanced.owned.owned⟩
  indebted := balanced.indebted
  blocked := ⟨balanced.blocked.keyed, balanced.blocked.exact⟩
  bounded := balanced.bounded

private theorem balanced_session (operations : List Operation)
    (positive : ∀ operation ∈ operations, operation.Positive)
    (bounded : attachedTotal (Book.empty.session operations).1 ≤ Text.maxInt64) :
    (Book.empty.session operations).2.Balanced := by
  have intact := intact_empty.session operations
  have recorded := paymentsRecorded_empty.session intact_empty recorded_empty operations
  have coherent := (told_session operations positive).coherent
  obtain ⟨limit, indebted⟩ := bounded_session Text.maxInt64 (fun _ member => by cases member)
    (fun coherent positive below change debts =>
      Indebted.change debts coherent positive below change)
    operations positive bounded
  obtain ⟨_, blocked⟩ := bounded_session Text.maxInt64 ⟨.nil, fun _ => rfl⟩
    (fun coherent positive below change blocked =>
      Blocked.change blocked coherent positive below change)
    operations positive bounded
  exact ⟨intact, coherent, recorded.toRecordsOwned, indebted, blocked, limit⟩

/-! ## Two bookings -/

section Twice

variable {first second : Booking} {now : Instant}

private theorem updateJobs_comm (jobs : List JobRow) {id other : String} (apart : id ≠ other)
    {update change : JobRow → JobRow} (kept : ∀ row, (update row).id = row.id)
    (keeps : ∀ row, (change row).id = row.id) :
    updateJobs (updateJobs jobs id update) other change =
      updateJobs (updateJobs jobs other change) id update := by
  simp only [updateJobs, List.map_map]
  apply List.map_congr_left
  intro row _
  by_cases here : row.id = id
  · have there : row.id ≠ other := fun same => apart (here.symm.trans same)
    simp [here, kept, apart]
  · by_cases there : row.id = other
    · simp [there, keeps, Ne.symm apart]
    · simp [here, there]

/-- The users are what they are apart from their debts, and the debts are sums of prices. -/
private theorem Indebted.users_eq (indebted : book.Indebted) :
    book.users = (book.users.map UserRow.debtless).map fun user =>
      { user with debtSats := book.priceSum (owes user.id) } := by
  rw [List.map_map]
  refine (List.map_id book.users).symm.trans (List.map_congr_left fun user member => ?_)
  simp only [Function.comp_apply, UserRow.debtless, ← indebted user member, id_eq]

/-- Two bookings date the rows that one of them writes. -/
private theorem datedUnder_twice (earlier : Booked first now book middle)
    (later : Booked second now middle after) :
    DatedUnder (fun hash => first.touched book = some hash ∨ second.touched book = some hash) now
      book.blocklist after.blocklist := by
  have again := later.blocklist
  rw [second.touched_congr earlier.sameUsers] at again
  exact earlier.blocklist.trans again

variable {other last : Book}

/-- The payment records of two books that the same was booked in are found under the same keys. -/
private theorem transactionRow?_twice (apart : first.job.id ≠ second.job.id)
    (earlier : Booked first now book middle) (later : Booked second now middle after)
    (reversed : Booked second now book other) (ended : Booked first now other last) (id : String) :
    last.transactionRow? id = after.transactionRow? id := by
  rw [ended.records, reversed.records, later.records, earlier.records]
  by_cases here : id = first.job.id
  · simp [here, apart]
  · simp [here]

/-- Two bookings of different jobs in either order leave the same rows. -/
private theorem sameRecords_twice (apart : first.job.id ≠ second.job.id)
    (earlier : Booked first now book middle) (later : Booked second now middle after)
    (reversed : Booked second now book other) (ended : Booked first now other last)
    (balanced : after.Balanced) (otherBalanced : last.Balanced) : SameRecords after last := by
  have jobs : last.jobs = after.jobs := by
    rw [ended.jobs, reversed.jobs, later.jobs, earlier.jobs]
    exact (updateJobs_comm book.jobs apart (movedRow_id _ _) (movedRow_id _ _)).symm
  have records := transactionRow?_twice apart earlier later reversed ended
  have stages : last.stageOf = after.stageOf := by
    funext id
    rw [stageOf, stageOf, records]
  have prices (counts : String → PaymentStage → Bool) :
      last.priceSum counts = after.priceSum counts := by
    rw [priceSum, priceSum, jobs, stages]
  have users : last.users = after.users := by
    rw [otherBalanced.indebted.users_eq, balanced.indebted.users_eq, ended.users, reversed.users,
      later.users, earlier.users]
    simp only [prices]
  have debts (hash : String) : debtUnder last.blocklist hash = debtUnder after.blocklist hash := by
    have same : SameUsers after last := by rw [SameUsers, users]
    rw [otherBalanced.blocked.exact, balanced.blocked.exact, same.blockedSats_eq, prices,
      ← blockedSats]
  exact {
    users
    jobs
    transactions := perm_of_find? otherBalanced.owned.keyed balanced.owned.keyed records
    blocklist := by
      have reversedDates := datedUnder_twice reversed ended
      simp only [or_comm] at reversedDates
      exact (datedUnder_twice earlier later).perm reversedDates balanced.blocked.keyed
        otherBalanced.blocked.keyed debts
    history := by
      rw [ended.history, reversed.history, later.history, earlier.history, List.append_assoc,
        List.append_assoc]
      exact (List.perm_append_comm).append_left _
    ledger := by
      rw [ended.ledger, reversed.ledger, later.ledger, earlier.ledger, List.append_assoc,
        List.append_assoc]
      exact (List.perm_append_comm).append_left _
    alerts := by rw [ended.alerts, reversed.alerts, later.alerts, earlier.alerts]
    lastHistory := by
      rw [ended.lastHistory, reversed.lastHistory, later.lastHistory, earlier.lastHistory]
    lastLedger := by
      rw [ended.lastLedger, reversed.lastLedger, later.lastLedger, earlier.lastLedger]
      omega
    lastAlert := by rw [ended.lastAlert, reversed.lastAlert, later.lastAlert, earlier.lastAlert]
    missing := by rw [ended.missing, reversed.missing, later.missing, earlier.missing] }

end Twice

/-! ## Every session -/

/-- An operation that is refused on both books commutes with every other one. -/
private theorem commutes_of_refused {first second : Operation} {cause : Refusal}
    (refused : book.perform first = (.error cause, book))
    (again : (book.perform second).2.perform first = (.error cause, (book.perform second).2)) :
    book.Commutes first second := by
  refine ⟨?_, ?_, ?_⟩
  · rw [refused, again]
  · rw [refused]
  · rw [refused, again]
    exact .refl _

/-- Closing the payment of a job leaves what is found under another id. -/
theorem jobRow?_close (intact : book.Intact) (closing : Closing) {id other : String}
    (apart : id ≠ other) (now : Instant) :
    (book.perform (closing.operation other now)).2.jobRow? id = book.jobRow? id := by
  rcases closing_cases closing other now (book.jobRow? other) with
    ⟨cause, refused⟩ | ⟨reply, booking, rfl, booked⟩
  · rw [refused book intact rfl]
  · rw [booked book intact rfl]
    exact (booked_write book booking now).jobRow?_of_ne apart

/-- Payments and write-offs of different jobs commute on every balanced book. -/
theorem Balanced.commutes (balanced : book.Balanced) {id other : String} (apart : id ≠ other)
    (first second : Closing) (now : Instant) :
    book.Commutes (first.operation id now) (second.operation other now) := by
  have intact := balanced.intact
  have afterFirst := balanced.close first id now
  have afterSecond := balanced.close second other now
  have found := jobRow?_close intact second apart now
  have otherFound := jobRow?_close intact first apart.symm now
  rcases closing_cases first id now (book.jobRow? id) with
    ⟨cause, refused⟩ | ⟨reply, booking, rfl, booked⟩
  · exact commutes_of_refused (refused book intact rfl) (refused _ afterSecond.intact found)
  rcases closing_cases second other now (book.jobRow? other) with
    ⟨cause, refused⟩ | ⟨otherReply, otherBooking, rfl, otherBooked⟩
  · exact (commutes_of_refused (refused book intact rfl)
      (refused _ afterFirst.intact otherFound)).symm
  -- Both are booked, in either order.
  have firstLast := afterSecond.close first booking.job.id now
  have secondLast := afterFirst.close second otherBooking.job.id now
  rw [booked _ afterSecond.intact found] at firstLast
  rw [otherBooked _ afterFirst.intact otherFound] at secondLast
  refine ⟨?_, ?_, ?_⟩
  · rw [booked _ afterSecond.intact found, booked book intact rfl]
  · rw [otherBooked _ afterFirst.intact otherFound, otherBooked book intact rfl]
  · rw [booked _ afterSecond.intact found, otherBooked _ afterFirst.intact otherFound]
    rw [otherBooked book intact rfl] at firstLast ⊢
    rw [booked book intact rfl] at secondLast ⊢
    exact sameRecords_twice apart (booked_write ..) (booked_write ..) (booked_write ..)
      (booked_write ..) secondLast firstLast

/-- After every session in which less than the greatest amount is invoiced, and with any alerts
raised and closed meanwhile, payments and write-offs of different jobs commute. -/
theorem closings_commute (operations : List Operation)
    (positive : ∀ operation ∈ operations, operation.Positive)
    (bounded : attachedTotal (Book.empty.session operations).1 ≤ Text.maxInt64)
    (alerts : List AlertRow) (lastAlert : Nat) {id other : String} (apart : id ≠ other)
    (first second : Closing) (now : Instant) :
    Commutes { (Book.empty.session operations).2 with alerts, lastAlert }
      (first.operation id now) (second.operation other now) :=
  ((balanced_session operations positive bounded).withAlerts alerts lastAlert).commutes apart
    first second now

/-- A write-off adds to the row of the hash from which a late payment takes away. Both are accepted,
and what is left is the same in either order. -/
theorem closings_commute_writeOffs :
    let book : Book := { (Book.empty.session ((writeOffs (some "u@v")).take 8)).2 with
      alerts := [], lastAlert := 0 }
    (book.perform (.settle "j" ⟨6, 0⟩)).1.isOk ∧ (book.perform (.recordRenege "k" ⟨6, 0⟩)).1.isOk ∧
      ((book.perform (.settle "j" ⟨6, 0⟩)).2.perform (.recordRenege "k" ⟨6, 0⟩)).2.blocklist.map
        (·.debtSats) = [300] ∧
      book.Commutes (.settle "j" ⟨6, 0⟩) (.recordRenege "k" ⟨6, 0⟩) :=
  ⟨by decide +kernel, by decide +kernel, by decide +kernel,
    closings_commute ((writeOffs (some "u@v")).take 8) (by decide) (by decide +kernel) [] 0
      (by decide) .settlement .writeOff ⟨6, 0⟩⟩

end Book

end JobRelay
