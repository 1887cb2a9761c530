import JobRelay.Proofs.Money.Prices

/-! # Debts are conserved

A user owes the prices of the jobs whose payment is not settled: an invoice adds a price, its
payment takes the same price away, and nothing else counts. So debts and receipts together are what
was invoiced, and the floor under debts is never reached.
-/

namespace JobRelay.Book

open Amount

/-- Whether a job adds to the debt of a user. -/
def owes (userId owner : String) (stage : PaymentStage) : Bool :=
  owner == userId && !stage.isSettled

/-- Users owe the prices of their jobs whose payment is not settled. -/
def Indebted (book : Book) : Prop :=
  ∀ user ∈ book.users, user.debtSats = book.priceSum (owes user.id)

variable {book after : Book} {row : JobRow} {job : Job}

/-! ## One change -/

private theorem debtRows_congr {users : List UserRow} {userId : String} {first second : Int → Int}
    (same : ∀ user ∈ users, user.id = userId → first user.debtSats = second user.debtSats) :
    debtRows users userId first = debtRows users userId second := by
  apply List.map_congr_left
  intro user member
  by_cases here : user.id = userId
  · rw [if_pos here, if_pos here, same user member here]
  · rw [if_neg here, if_neg here]

/-- An invoice adds its amount to the debt. -/
private theorem Indebted.users_invoiced (debts : book.Indebted) (coherent : book.Coherent)
    {amountSats : Int} (positive : 0 < amountSats)
    (bounded : book.allPrices + amountSats ≤ Text.maxInt64) (invoiceId : String) (now : Instant) :
    (book.invoiced job amountSats invoiceId now).users =
      debtRows book.users job.userId (· + amountSats) := by
  show debtRows book.users job.userId (Amount.add · amountSats) = _
  apply debtRows_congr
  intro user member _
  have nonneg := coherent.priceSum_nonneg (owes user.id)
  have below := coherent.priceSum_le_allPrices (owes user.id)
  rw [debts user member]
  exact add_eq_of_le nonneg (Int.le_of_lt positive) (by omega)

/-- A payment takes the whole price off the debt, which holds it. -/
private theorem Indebted.users_settled (debts : book.Indebted) (coherent : book.Coherent)
    (bounded : book.allPrices ≤ Text.maxInt64) (member : row ∈ book.jobs) (shows : Shows row job)
    {next : JobStatus} {paymentStatus : String}
    (target : settlementTarget job = .ok (next, paymentStatus)) (now : Instant) :
    (∀ user ∈ book.users, user.id = row.userId → row.price ≤ user.debtSats) ∧
      (book.settled job next paymentStatus now).users =
        debtRows book.users row.userId (· - row.price) := by
  have unsettled := (coherent.settled member shows target now).1
  have covered : ∀ user ∈ book.users, user.id = row.userId → row.price ≤ user.debtSats := by
    intro user present same
    rw [debts user present]
    exact coherent.price_le_priceSum member (by simp [owes, same, unsettled])
  refine ⟨covered, ?_⟩
  rw [Book.settled, (coherent.accounts row member).positivePrice_eq shows, shows.userId]
  have nonneg := coherent.price_nonneg member
  cases price : row.amountSats with
  | none => simp [debtRows, JobRow.price, price]
  | some amountSats =>
    have worth : row.price = amountSats := by rw [JobRow.price, price]; rfl
    show debtRows book.users row.userId (Amount.lower · amountSats) = _
    apply debtRows_congr
    intro user present same
    have holds := covered user present same
    have below := coherent.priceSum_le_allPrices (owes user.id)
    rw [← debts user present] at below
    rw [worth] at nonneg holds ⊢
    exact lower_eq_of_le nonneg holds (by omega)

/-- Debts stay right when the debt of one user and the prices of that user's open jobs change by
the same amount. -/
private theorem Indebted.of_debtRows (debts : book.Indebted) {userId : String} {change : Int}
    (users : after.users = debtRows book.users userId (· + change))
    (sums : ∀ id, after.priceSum (owes id) =
      book.priceSum (owes id) + if userId = id then change else 0) : after.Indebted := by
  intro user present
  rw [users] at present
  obtain ⟨old, member, rfl⟩ := List.mem_map.mp present
  have before := debts old member
  by_cases here : old.id = userId
  · rw [if_pos here, sums, if_pos here.symm, ← before]
  · rw [if_neg here, sums, if_neg (Ne.symm here), ← before, Int.add_zero]

private theorem Indebted.quiet (debts : book.Indebted) (coherent : book.Coherent)
    (step : Quiet book after) : after.Indebted := by
  have sums (id : String) : after.priceSum (owes id) = book.priceSum (owes id) := step.priceSum
  cases step with
  | userAdded row fresh debtless =>
    intro user present
    rw [sums]
    rcases List.mem_append.mp present with old | new
    · exact debts user old
    · obtain rfl := List.mem_singleton.mp new
      rw [debtless, priceSum_eq_zero]
      intro job member
      obtain ⟨owner, known, owns⟩ := coherent.owners job member
      have other : job.userId ≠ user.id := owns ▸ fresh owner known
      simp [owes, other]
  | _ =>
    intro user present
    rw [sums]
    exact debts user present

/-- Every change keeps debts right as long as all prices together stay in range. -/
theorem Indebted.change (debts : book.Indebted) (coherent : book.Coherent) {deed : Deed}
    (positive : deed.Positive) (bounded : after.allPrices ≤ Text.maxInt64)
    (change : Change book deed after) : after.Indebted := by
  have grown := change.allPrices coherent positive
  cases change with
  | quiet steps =>
    exact (coherent.quiet_induction (fun coherent step debts => Indebted.quiet debts coherent step)
      steps debts).2
  | @invoiced row member job shows uninvoiced started underWay amountSats invoiceId unused now =>
    apply debts.of_debtRows
      (debts.users_invoiced coherent positive (grown ▸ bounded) invoiceId now)
    intro id
    rw [coherent.priceSum_invoiced member shows uninvoiced underWay positive, shows.userId]
    simp [owes, PaymentStage.isSettled]
  | @settled row member job shows unpaid next paymentStatus target now answer answered =>
    have unsettled := (coherent.settled member shows target now).1
    have nothing : (Deed.settled answer).attachedSats = 0 := rfl
    rw [grown, nothing, Int.add_zero] at bounded
    apply debts.of_debtRows (debts.users_settled coherent bounded member shows target now).2
    intro id
    rw [coherent.priceSum_settled member shows target]
    simp only [owes, unsettled, PaymentStage.isSettled_settle, Bool.not_true, Bool.and_false,
      Bool.not_false, Bool.and_true, beq_iff_eq, Bool.false_eq_true, if_false]
    split <;> omega
  | @writtenOff row member job shows allowed now =>
    have before := (coherent.writtenOff member shows allowed now).1
    have unsettled : (book.stageOf row.id).isSettled = false := by
      rcases before with before | before <;> rw [before] <;> rfl
    have still : PaymentStage.reneged.isSettled = false := rfl
    intro user present
    rw [coherent.priceSum_writtenOff member shows allowed, debts user present]
    simp only [owes, unsettled, still]
    omega

/-! ## Whole sessions -/

def invoicedTo (book : Book) (userId : String) : Int :=
  total ((book.jobs.filter fun row => row.userId == userId && row.invoiceId.isSome).map
    (·.price))

/-- What the ledger holds for the jobs of a user. -/
def receivedFrom (book : Book) (userId : String) : Int :=
  total (((book.jobs.filter (·.userId == userId)).flatMap fun row => book.entriesOf row.id).map
    (·.amountSats))

/-- What was invoiced to a user and is not settled by the events. -/
def outstandingTo (events : List Event) (book : Book) (userId : String) : Int :=
  total ((book.jobs.filter fun row => row.userId == userId && row.invoiceId.isSome &&
    !(settledJobs events).any (·.id == row.id)).map (·.price))

private theorem Coherent.price_of_uninvoiced (coherent : book.Coherent) (member : row ∈ book.jobs)
    (uninvoiced : row.invoiceId.isSome = false) : row.price = 0 := by
  have free := (coherent.accounts row member).invoiceId_eq_none_iff.mp (by simpa using uninvoiced)
  rw [JobRow.price, free]
  rfl

private theorem Coherent.invoicedTo_eq (coherent : book.Coherent) (userId : String) :
    book.invoicedTo userId = book.priceSum fun owner _ => owner == userId := by
  rw [invoicedTo, total_map_filter, priceSum]
  congr 1
  apply List.map_congr_left
  intro row member
  by_cases invoice : row.invoiceId.isSome
  · simp [invoice]
  · simp [coherent.price_of_uninvoiced member (by simpa using invoice)]

private theorem Told.outstandingTo_eq {events : List Event} (told : Told events book)
    (userId : String) : book.outstandingTo events userId = book.priceSum (owes userId) := by
  rw [outstandingTo, total_map_filter, priceSum]
  congr 1
  apply List.map_congr_left
  intro row member
  have settled : (settledJobs events).any (·.id == row.id) = (book.stageOf row.id).isSettled := by
    rw [Bool.eq_iff_iff, told.isSettled_iff]
    simp
  by_cases invoice : row.invoiceId.isSome
  · simp [invoice, owes, settled]
  · simp [told.coherent.price_of_uninvoiced member (by simpa using invoice)]

private theorem Coherent.receivedFrom_eq (coherent : book.Coherent) (userId : String) :
    book.receivedFrom userId =
      book.priceSum fun owner stage => owner == userId && stage.isSettled := by
  rw [receivedFrom, List.map_flatMap, total_flatMap, total_map_filter, priceSum]
  congr 1
  apply List.map_congr_left
  intro row member
  have posted : (book.entriesOf row.id).map (·.amountSats) =
      (row.postings (book.stageOf row.id)).map (·.amountSats) := by
    rw [← (coherent.accounts row member).entries, List.map_map]
    rfl
  rw [posted, JobRow.postings]
  cases price : row.amountSats <;> cases settled : (book.stageOf row.id).isSettled <;>
    simp [total, JobRow.price, price]

/-- Debts and receipts of a user together are what was invoiced to the user. -/
theorem Coherent.debt_add_receivedFrom (coherent : book.Coherent) (userId : String) :
    book.priceSum (owes userId) + book.receivedFrom userId = book.invoicedTo userId := by
  rw [coherent.receivedFrom_eq, coherent.invoicedTo_eq, priceSum, priceSum, ← total_map_add,
    priceSum]
  congr 1
  apply List.map_congr_left
  intro row _
  cases settled : (book.stageOf row.id).isSettled <;> simp [owes, settled]

/-- Debts are neither lost nor made: what users owe and what they have paid is what was invoiced to
them, what they owe is what is not settled, and no payment is cut off at zero. -/
structure DebtsConserved (events : List Event) (book : Book) : Prop where
  conserved : ∀ user ∈ book.users,
    user.debtSats + book.receivedFrom user.id = book.invoicedTo user.id
  outstanding : ∀ user ∈ book.users, user.debtSats = book.outstandingTo events user.id
  uncut : ∀ operation job, Event.deed ⟨operation, (book.perform operation).1⟩ = .settled job →
    (∀ user ∈ book.users, user.id = job.userId → job.amountSats.getD 0 ≤ user.debtSats) ∧
      (book.perform operation).2.users =
        debtRows book.users job.userId (· - job.amountSats.getD 0)

/-- Every session in which less than the greatest amount is invoiced conserves debts. -/
theorem debtsConserved_session (operations : List Operation)
    (positive : ∀ operation ∈ operations, operation.Positive)
    (bounded : attachedTotal (Book.empty.session operations).1 ≤ Text.maxInt64) :
    DebtsConserved (Book.empty.session operations).1 (Book.empty.session operations).2 := by
  have told := told_session operations positive
  obtain ⟨limit, debts⟩ := bounded_session Text.maxInt64 (fun _ member => by cases member)
    (fun coherent positive below change debts =>
      Indebted.change debts coherent positive below change)
    operations positive bounded
  generalize (Book.empty.session operations).1 = events at told ⊢
  generalize (Book.empty.session operations).2 = book at told limit debts ⊢
  refine ⟨?_, ?_, ?_⟩
  · intro user member
    rw [debts user member]
    exact told.coherent.debt_add_receivedFrom user.id
  · intro user member
    rw [debts user member, told.outstandingTo_eq]
  · intro operation job settles
    obtain ⟨row, member, found, next, paymentStatus, now, shows, target, answered, written⟩ :=
      perform_settled told.coherent.jobsKeyed settles
    rw [written, answered.userId, answered.amountSats]
    exact debts.users_settled told.coherent limit member shows target now

theorem debtsConserved_writeOffs :
    (Book.empty.session (writeOffs none)).2.users.map (·.debtSats) = [700, 0] ∧
      DebtsConserved (Book.empty.session (writeOffs none)).1
        (Book.empty.session (writeOffs none)).2 :=
  ⟨by decide +kernel,
    debtsConserved_session (writeOffs none) (by decide) (by decide +kernel)⟩

end JobRelay.Book
