import JobRelay.Book.Accounts
import JobRelay.Proofs.Money.Blocklist
import JobRelay.Proofs.Money.Payable
import JobRelay.Proofs.Money.Rounding

/-! # What becomes of great sums

Invoices and write-offs add amounts to debts, and no amount is too great for them: whether one is
accepted depends on the job alone. A sum that fits is stored exactly. One that does not is not
refused; what is then stored is rounded and does not fit either. Only the sum of all debts is
refused when it does not fit.
-/

namespace JobRelay

open Amount

/-- A stored sum is exact if the exact sum fits, and does not fit if that does not. -/
structure Amount.KeptSum (a b sum : Int) : Prop where
  exact : a + b ≤ Text.maxInt64 → sum = a + b
  beyond : Text.maxInt64 < a + b → Text.maxInt64 < sum

private theorem Amount.keptSum_add {a b : Int} (ha : 0 ≤ a) (hb : 0 ≤ b) : KeptSum a b (add a b) :=
  ⟨add_eq_of_le ha hb, maxInt64_lt_add ha hb⟩

namespace Book

variable {book after : Book} {row : JobRow} {job : Job}

/-! ## No debt is negative -/

/-- No user and no email hash has a negative debt. -/
structure Solvent (book : Book) : Prop where
  debts : ∀ user ∈ book.users, 0 ≤ user.debtSats
  blocked : ∀ row ∈ book.blocklist, 0 ≤ row.debtSats

theorem solvent_empty : Solvent .empty := ⟨nofun, nofun⟩

/-- Rows that are changed where a key is named stay what they all were, if the changed ones are. -/
private theorem forall_mem_changed {α : Type} {holds named : α → Prop} [DecidablePred named]
    {change : α → α} {rows : List α} (every : ∀ row ∈ rows, holds row)
    (changed : ∀ row ∈ rows, holds (change row)) :
    ∀ row ∈ rows.map (fun row => if named row then change row else row), holds row := by
  intro row present
  obtain ⟨old, member, rfl⟩ := List.mem_map.mp present
  by_cases here : named old
  · rw [if_pos here]
    exact changed old member
  · rw [if_neg here]
    exact every old member

private theorem Quiet.solvent (step : Quiet book after) (solvent : book.Solvent) :
    after.Solvent := by
  cases step with
  | userAdded row fresh debtless =>
    refine ⟨fun user present => ?_, solvent.blocked⟩
    rcases List.mem_append.mp present with old | new
    · exact solvent.debts user old
    · obtain rfl := List.mem_singleton.mp new
      exact Int.le_of_eq debtless.symm
  | _ => exact ⟨solvent.debts, solvent.blocked⟩

theorem Change.solvent (coherent : book.Coherent) {deed : Deed} (positive : deed.Positive)
    (change : Change book deed after) (solvent : book.Solvent) : after.Solvent := by
  cases change with
  | quiet steps =>
    exact (coherent.quiet_induction (fun _ step => step.solvent) steps solvent).2
  | invoiced member shows uninvoiced started underWay amountSats unused now =>
    have more : 0 ≤ amountSats := Int.le_of_lt positive
    exact ⟨forall_mem_changed solvent.debts fun user member =>
      Amount.add_nonneg (solvent.debts user member) more, solvent.blocked⟩
  | @settled row member job shows unpaid next paymentStatus target now answer answered =>
    refine ⟨?_, ?_⟩
    · rw [Book.settled]
      cases positivePrice job with
      | none => exact solvent.debts
      | some amountSats =>
        exact forall_mem_changed solvent.debts fun user _ => lower_nonneg ..
    · show ∀ row ∈ book.paidOffRows job paymentStatus now, 0 ≤ row.debtSats
      unfold paidOffRows
      split
      · rename_i amountSats _
        split
        · intro row present
          exact forall_mem_changed solvent.blocked (fun row _ => lower_nonneg ..) row
            (List.mem_filter.mp present).1
        · exact solvent.blocked
      · exact solvent.blocked
  | @writtenOff row member job shows allowed now =>
    refine ⟨solvent.debts, ?_⟩
    show ∀ row ∈ book.dunnedRows job now, 0 ≤ row.debtSats
    rcases coherent.charge_cases member shows with ⟨free, _⟩ | ⟨hash, amountSats, charge, more, _⟩
    · rw [dunnedRows, free]
      exact solvent.blocked
    · rw [dunnedRows, charge]
      show ∀ row ∈ raisedRows book.blocklist hash amountSats now, 0 ≤ row.debtSats
      have more : 0 ≤ amountSats := Int.le_of_lt more
      unfold raisedRows
      split
      · exact forall_mem_changed solvent.blocked fun row member =>
          Amount.add_nonneg (solvent.blocked row member) more
      · intro row present
        rcases List.mem_append.mp present with old | new
        · exact solvent.blocked row old
        · obtain rfl := List.mem_singleton.mp new
          exact more

/-! ## Which invoices and write-offs are accepted -/

/-- Whether a job takes an invoice: it is under way and carries none, and no other job carries this
one. -/
def TakesInvoice (book : Book) (id invoiceId : String) : Prop :=
  ∃ row ∈ book.jobs, row.id = id ∧ row.invoiceId = none ∧
    (∃ status : JobStatus, row.status = status.name ∧ status ≠ .pending ∧
      status.isTerminal = false) ∧
    ∀ other ∈ book.jobs, other.id ≠ id → other.invoiceId ≠ some invoiceId

/-- An invoice that its job takes is put on it, whatever the amount and the debt. -/
theorem attachInvoice_succeeds (intact : book.Intact) (solvent : book.Solvent)
    {id invoiceId : String} (takes : book.TakesInvoice id invoiceId) {amountSats : Int}
    (positive : 0 < amountSats) (now : Instant) :
    ∃ answer, book.attachInvoice id amountSats invoiceId now = .ok answer := by
  obtain ⟨row, member, rfl, free, ⟨status, stands, started, underWay⟩, unused⟩ := takes
  obtain ⟨job, read⟩ := intact.readable row member
  have shows := shows_of_readJob read
  obtain rfl : job.status = status := JobStatus.name_inj (shows.status.symm.trans stands)
  have tables := intact.tables
  have required := requireJob_of_found tables (jobRow?_of_mem intact.jobsKeyed member) read
  have written : book.writeInvoice row.id amountSats invoiceId =
      .ok (book.updateJob row.id (pricedRow amountSats invoiceId)) := by
    rw [writeInvoice, if_neg (by simpa using unused)]
    rfl
  have floor : ∀ user ∈ book.users, 0 ≤ Amount.add user.debtSats amountSats :=
    fun user present => Amount.add_nonneg (solvent.debts user present) (Int.le_of_lt positive)
  unfold attachInvoice
  refine bind_succeeds required ?_
  simp only [started, underWay, shows.invoiceId, free]
  refine bind_succeeds (liftMove_eq_ok_iff.mpr written) ?_
  refine bind_succeeds (liftMove_eq_ok_iff.mpr
    (changeDebt_of_nonneg (by exact tables) job.userId (by exact floor))) ?_
  refine bind_succeeds (liftMove_eq_ok_iff.mpr
    (recordTransaction_of_tables (by exact tables) ..)) ?_
  refine bind_succeeds (requireJob_of_found (by exact tables)
    (jobRow?_updateJobs intact.jobsKeyed member rfl fun _ => rfl)
    (readJob_pricedRow read amountSats invoiceId)) ⟨_, rfl⟩

/-- Whether an invoice is accepted depends on its job alone. -/
theorem accepts_attachInvoice_iff (intact : book.Intact) (solvent : book.Solvent) {amountSats : Int}
    (positive : 0 < amountSats) (id invoiceId : String) (now : Instant) :
    (∃ reply, (book.perform (.attachInvoice id amountSats invoiceId now)).1 = .ok reply) ↔
      book.TakesInvoice id invoiceId := by
  constructor
  · rintro ⟨reply, accepted⟩
    obtain ⟨job, attached, _⟩ := answer_eq_ok (perform_eq_ok accepted)
    obtain ⟨row, member, found, same, shows, uninvoiced, started, underWay, unused, _⟩ :=
      attachInvoice_eq_ok attached
    exact ⟨row, member, same, shows.invoiceId.symm.trans uninvoiced,
      ⟨found.status, shows.status, started, underWay⟩, unused⟩
  · intro takes
    obtain ⟨⟨job, after⟩, attached⟩ := attachInvoice_succeeds intact solvent takes positive now
    have applied : (Operation.attachInvoice id amountSats invoiceId now).apply book =
        .ok (.job job, after) := by rw [Operation.apply, attached, Operation.answer]
    exact ⟨_, congrArg Prod.fst (perform_of_apply applied)⟩

/-- Whether a job can be written off. -/
def TakesRenege (book : Book) (id : String) : Prop :=
  ∃ row ∈ book.jobs, row.id = id ∧
    ∃ status : JobStatus, row.status = status.name ∧ status.canMoveTo .completedReneged

/-- A job that can be written off is, whatever its price and the debt under its hash. -/
theorem recordRenege_succeeds (intact : book.Intact) {id : String} (takes : book.TakesRenege id)
    {now : Instant} (dated : now.Dated) : ∃ answer, book.recordRenege id now = .ok answer := by
  obtain ⟨row, member, rfl, status, stands, edge⟩ := takes
  obtain ⟨job, read⟩ := intact.readable row member
  obtain rfl : job.status = status :=
    JobStatus.name_inj ((shows_of_readJob read).status.symm.trans stands)
  rw [recordRenege_eq intact member read edge,
    readJob_movedRow read .completedReneged (readInstant_stored dated)]
  exact ⟨_, rfl⟩

/-- Whether a write-off is accepted depends on its job alone. -/
theorem accepts_recordRenege_iff (intact : book.Intact) {now : Instant} (dated : now.Dated)
    (id : String) :
    (∃ reply, (book.perform (.recordRenege id now)).1 = .ok reply) ↔ book.TakesRenege id := by
  constructor
  · rintro ⟨reply, accepted⟩
    obtain ⟨job, reneged, _⟩ := answer_eq_ok (perform_eq_ok accepted)
    obtain ⟨row, member, found, same, shows, edge, _⟩ :=
      recordRenege_eq_ok intact.jobsKeyed reneged
    exact ⟨row, member, same, found.status, shows.status, edge⟩
  · intro takes
    obtain ⟨⟨job, after⟩, reneged⟩ := recordRenege_succeeds intact takes dated
    have applied : (Operation.recordRenege id now).apply book = .ok (.job job, after) := by
      rw [Operation.apply, reneged, Operation.answer]
    exact ⟨_, congrArg Prod.fst (perform_of_apply applied)⟩

/-! ## The sum of all debts -/

def totalDebt (book : Book) : Int :=
  total (book.users.map (·.debtSats))

/-- Users who owe nothing add nothing. -/
private theorem Solvent.total_filter_eq (solvent : book.Solvent) :
    total ((book.users.map (·.debtSats)).filter (0 < ·)) = book.totalDebt := by
  rw [List.filter_map, total_map_filter, totalDebt]
  congr 1
  apply List.map_congr_left
  intro user member
  have floor := solvent.debts user member
  by_cases owes : 0 < user.debtSats
  · simp [owes]
  · have free : user.debtSats = 0 := by omega
    simp [free]

private theorem Solvent.debt_le_totalDebt (solvent : book.Solvent) {user : UserRow}
    (member : user ∈ book.users) : user.debtSats ≤ book.totalDebt :=
  le_total_map solvent.debts member

private theorem Solvent.totalDebt_nonneg (solvent : book.Solvent) : 0 ≤ book.totalDebt := by
  have below := total_map_le solvent.debts
  rwa [total_map_zero] at below

/-- The sum of all debts is told if it fits, and then exactly. -/
theorem outstandingDebt_of_fits (tables : book.missing = []) (solvent : book.Solvent)
    (fits : book.totalDebt ≤ Text.maxInt64) : book.outstandingDebt = .ok book.totalDebt := by
  have inRange {n : Int} (nonneg : 0 ≤ n) (le : n ≤ book.totalDebt) : Text.fitsInt64 n := by
    rw [Text.fitsInt64_iff, Text.minInt64]
    omega
  have each : ((book.users.map (·.debtSats)).filter (0 < ·)).all Text.fitsInt64 := by
    rw [List.all_eq_true]
    intro debt owed
    obtain ⟨user, member, rfl⟩ := List.mem_map.mp (List.mem_filter.mp owed).1
    exact inRange (solvent.debts user member) (solvent.debt_le_totalDebt member)
  have whole := inRange solvent.totalDebt_nonneg (Int.le_refl _)
  refine (bind_of_eq_ok (mapError_eq_ok_iff.mpr (need_of_tables tables .users))).trans ?_
  simp only [each, solvent.total_filter_eq, whole]
  rfl

private theorem outstandingDebt_of_beyond (tables : book.missing = []) (solvent : book.Solvent)
    (beyond : Text.maxInt64 < book.totalDebt) : ∃ fault, book.outstandingDebt = .error fault := by
  have whole : Text.fitsInt64 book.totalDebt = false := by
    rw [Bool.eq_false_iff, ne_eq, Text.fitsInt64_iff]
    omega
  rw [outstandingDebt, bind_of_eq_ok (mapError_eq_ok_iff.mpr (need_of_tables tables .users))]
  simp only [solvent.total_filter_eq, whole]
  split
  · exact ⟨_, rfl⟩
  · exact ⟨_, rfl⟩

/-! ## Every session -/

/-- What becomes of sums in a book. An amount is added if the job allows it, whatever the sum is;
the sum is exact if it fits and is kept out of the range if it does not. The sum of all debts is
told exactly, or not at all. -/
structure SumsKept (book : Book) : Prop where
  invoiceAccepted : ∀ id amountSats invoiceId now, 0 < amountSats →
    ((∃ reply, (book.perform (.attachInvoice id amountSats invoiceId now)).1 = .ok reply) ↔
      book.TakesInvoice id invoiceId)
  invoiceAdded : ∀ id amountSats invoiceId now reply, 0 < amountSats →
    (book.perform (.attachInvoice id amountSats invoiceId now)).1 = .ok reply →
    ∀ row ∈ book.jobs, row.id = id → ∀ user ∈ book.users,
      ∃ other ∈ (book.perform (.attachInvoice id amountSats invoiceId now)).2.users,
        other.id = user.id ∧
          if user.id = row.userId then KeptSum user.debtSats amountSats other.debtSats
          else other = user
  renegeAccepted : ∀ id now, now.Dated →
    ((∃ reply, (book.perform (.recordRenege id now)).1 = .ok reply) ↔ book.TakesRenege id)
  renegeAdded : ∀ id now reply, (book.perform (.recordRenege id now)).1 = .ok reply →
    ∀ row ∈ book.jobs, row.id = id → ∀ amountSats, row.amountSats = some amountSats →
      ∀ hash, book.hashOf row.userId = some hash →
        ∃ debt, debtUnder (book.perform (.recordRenege id now)).2.blocklist hash = some debt ∧
          KeptSum ((debtUnder book.blocklist hash).getD 0) amountSats debt
  totalTold : book.totalDebt ≤ Text.maxInt64 → book.outstandingDebt = .ok book.totalDebt
  totalRefused : Text.maxInt64 < book.totalDebt → ∃ fault, book.outstandingDebt = .error fault

/-- An accepted invoice adds its amount to the debt of the owner of its job. -/
theorem users_attachInvoice (keyed : book.JobsKeyed) (solvent : book.Solvent) {id : String}
    {amountSats : Int} (positive : 0 < amountSats) {invoiceId : String} {now : Instant}
    (h : book.attachInvoice id amountSats invoiceId now = .ok (job, after)) (member : row ∈ book.jobs)
    (same : row.id = id) {user : UserRow} (known : user ∈ book.users) :
    ∃ other ∈ after.users, other.id = user.id ∧
      if user.id = row.userId then KeptSum user.debtSats amountSats other.debtSats
      else other = user := by
  obtain ⟨found, listed, shown, here, shows, _, _, _, _, rfl⟩ := attachInvoice_eq_ok h
  obtain rfl := keyed.eq_of_id listed member (here.trans same.symm)
  have present : (if user.id = shown.userId then
      { user with debtSats := Amount.add user.debtSats amountSats } else user) ∈
        (book.invoiced shown amountSats invoiceId now).users := List.mem_map_of_mem known
  rw [shows.userId] at present
  by_cases owner : user.id = found.userId
  · rw [if_pos owner] at present
    refine ⟨_, present, rfl, ?_⟩
    rw [if_pos owner]
    exact keptSum_add (solvent.debts user known) (Int.le_of_lt positive)
  · rw [if_neg owner] at present
    refine ⟨_, present, rfl, ?_⟩
    rw [if_neg owner]

/-- A write-off adds the price of its job to the debt under the hash of the owner. -/
theorem blocklist_recordRenege (coherent : book.Coherent) (solvent : book.Solvent) {id : String}
    {now : Instant} (h : book.recordRenege id now = .ok (job, after)) (member : row ∈ book.jobs)
    (same : row.id = id) {amountSats : Int} (price : row.amountSats = some amountSats)
    {hash : String} (owner : book.hashOf row.userId = some hash) :
    ∃ debt, debtUnder after.blocklist hash = some debt ∧
      KeptSum ((debtUnder book.blocklist hash).getD 0) amountSats debt := by
  obtain ⟨found, listed, shown, here, shows, _, rfl⟩ := recordRenege_eq_ok coherent.jobsKeyed h
  obtain rfl := coherent.jobsKeyed.eq_of_id listed member (here.trans same.symm)
  have account := coherent.accounts found member
  have positive := account.positive price
  have charge : book.charge shown = some (hash, amountSats) := by
    rw [Book.charge, account.positivePrice_eq shows, price, shows.userId, owner]
    rfl
  have rows : (book.writtenOff shown now).blocklist =
      raisedRows book.blocklist hash amountSats now := by
    rw [writtenOff, dunnedRows, charge]
  refine ⟨_, by rw [rows, debtUnder_raisedRows, if_pos rfl], ?_⟩
  cases under : debtUnder book.blocklist hash with
  | none => exact ⟨fun _ => (Int.zero_add _).symm, fun beyond => by simpa using beyond⟩
  | some debt =>
    obtain ⟨blocked, there, rfl⟩ := Option.map_eq_some_iff.mp under
    exact keptSum_add (solvent.blocked blocked (List.mem_of_find?_eq_some there))
      (Int.le_of_lt positive)

private theorem solvent_session (operations : List Operation)
    (positive : ∀ operation ∈ operations, operation.Positive) :
    (Book.empty.session operations).2.Coherent ∧ (Book.empty.session operations).2.Solvent := by
  apply session_induction (motive := fun _ book => book.Coherent ∧ book.Solvent)
    Operation.Positive ⟨coherent_empty, solvent_empty⟩ _ operations positive
  intro events book operation allowed ⟨coherent, solvent⟩
  have change := perform_change coherent.jobsKeyed operation
  exact ⟨coherent.change (allowed.deed _) change, change.solvent coherent (allowed.deed _) solvent⟩

private theorem Intact.sumsKept (intact : book.Intact) (coherent : book.Coherent)
    (solvent : book.Solvent) : SumsKept book where
  invoiceAccepted id _ invoiceId now positive :=
    accepts_attachInvoice_iff intact solvent positive id invoiceId now
  invoiceAdded id amountSats invoiceId now reply positive accepted row member same user known := by
    obtain ⟨job, attached, _⟩ := answer_eq_ok (perform_eq_ok accepted)
    exact users_attachInvoice coherent.jobsKeyed solvent positive attached member same known
  renegeAccepted id now dated := accepts_recordRenege_iff intact dated id
  renegeAdded id now reply accepted row member same amountSats price hash owner := by
    obtain ⟨job, reneged, _⟩ := answer_eq_ok (perform_eq_ok accepted)
    exact blocklist_recordRenege coherent solvent reneged member same price owner
  totalTold := outstandingDebt_of_fits intact.tables solvent
  totalRefused := outstandingDebt_of_beyond intact.tables solvent

/-- After every session of positive invoices, sums are kept as `SumsKept` says. -/
theorem sumsKept_session (operations : List Operation)
    (positive : ∀ operation ∈ operations, operation.Positive) :
    SumsKept (Book.empty.session operations).2 := by
  obtain ⟨coherent, solvent⟩ := solvent_session operations positive
  exact (intact_empty.session operations).sumsKept coherent solvent

/-- Two invoices of one user that together leave the range. -/
def greatInvoices (email : Option String) : List Operation :=
  [.createUser "u" email "active" ⟨0, 0⟩,
   .createJob "j" ⟨"u", "s", .cancel, .scheduled, none⟩ ⟨1, 0⟩,
   .createJob "k" ⟨"u", "s", .resume, .onDemand, none⟩ ⟨1, 0⟩,
   .claim ["j", "k"] ⟨2, 0⟩,
   .attachInvoice "j" 9223372036854775807 "i" ⟨3, 0⟩,
   .attachInvoice "k" 2 "l" ⟨4, 0⟩]

/-- Both invoices are accepted, and the debt is neither their sum nor in the range. -/
theorem sumsKept_greatInvoices :
    ((Book.empty.session (greatInvoices none)).1.all fun event => event.result.isOk) ∧
      (Book.empty.session (greatInvoices none)).2.users.map (·.debtSats) =
        [9223372036854775808] ∧
      SumsKept (Book.empty.session (greatInvoices none)).2 :=
  ⟨by decide +kernel, by decide +kernel, sumsKept_session (greatInvoices none) (by decide)⟩

end Book

end JobRelay
