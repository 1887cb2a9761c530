import JobRelay.Proofs.Session.Chronicle

/-! # Sums of prices

Debts, blocked debts and receipts are all sums of the prices of some jobs, chosen by their owner
and by the stage of their payment. Such a sum moves only with the job that a change reaches, by
what this job counted before and counts afterwards.
-/

namespace JobRelay

/-- The price on a job, or nothing. -/
def JobRow.price (row : JobRow) : Int :=
  row.amountSats.getD 0

namespace Amount

theorem add_eq_of_le {a b : Int} (ha : 0 ≤ a) (hb : 0 ≤ b) (le : a + b ≤ Text.maxInt64) :
    add a b = a + b := by
  apply add_eq <;> rw [Text.fitsInt64_iff] <;> unfold Text.minInt64 <;> omega

theorem lower_eq_of_le {a b : Int} (hb : 0 ≤ b) (part : b ≤ a) (le : a ≤ Text.maxInt64) :
    lower a b = a - b := by
  have exact : add a (-b) = a + -b := by
    unfold Text.maxInt64 at le
    apply add_eq <;> rw [Text.fitsInt64_iff] <;> unfold Text.minInt64 Text.maxInt64 <;> omega
  rw [lower, exact]
  omega

theorem total_map_le {α : Type} {rows : List α} {first second : α → Int}
    (below : ∀ row ∈ rows, first row ≤ second row) :
    total (rows.map first) ≤ total (rows.map second) := by
  induction rows with
  | nil => exact Int.le_refl 0
  | cons row rest ih =>
    have head := below row (List.mem_cons_self ..)
    have tail := ih fun other member => below other (List.mem_cons_of_mem _ member)
    simp only [List.map_cons, total]
    omega

theorem total_map_zero {α : Type} (rows : List α) : total (rows.map fun _ => 0) = 0 := by
  induction rows with
  | nil => rfl
  | cons row rest ih => simp only [List.map_cons, total, ih, Int.add_zero]

/-- A summand is at most the sum of what is not negative. -/
theorem le_total_map {α : Type} {rows : List α} {value : α → Int}
    (nonneg : ∀ row ∈ rows, 0 ≤ value row) {row : α} (member : row ∈ rows) :
    value row ≤ total (rows.map value) := by
  induction rows with
  | nil => cases member
  | cons first rest ih =>
    have tail : ∀ other ∈ rest, 0 ≤ value other := fun other present =>
      nonneg other (List.mem_cons_of_mem _ present)
    have sum := total_map_le tail
    rw [total_map_zero] at sum
    simp only [List.map_cons, total]
    rcases List.mem_cons.mp member with rfl | member
    · omega
    · have head := nonneg first (List.mem_cons_self ..)
      have found := ih tail member
      omega

theorem total_map_add {α : Type} (rows : List α) (first second : α → Int) :
    total (rows.map fun row => first row + second row) =
      total (rows.map first) + total (rows.map second) := by
  induction rows with
  | nil => rfl
  | cons row rest ih =>
    simp only [List.map_cons, total, ih]
    omega

/-- A sum over chosen rows is a sum in which the others count nothing. -/
theorem total_map_filter {α : Type} (rows : List α) (chosen : α → Bool) (value : α → Int) :
    total ((rows.filter chosen).map value) =
      total (rows.map fun row => if chosen row then value row else 0) := by
  induction rows with
  | nil => rfl
  | cons row rest ih => cases here : chosen row <;> simp [total, here, ih]

theorem total_flatMap {α : Type} (rows : List α) (values : α → List Int) :
    total (rows.flatMap values) = total (rows.map fun row => total (values row)) := by
  induction rows with
  | nil => rfl
  | cons row rest ih => simp only [List.flatMap_cons, total_append, List.map_cons, total, ih]

/-- Changing one job changes a sum by the difference that this job makes. -/
private theorem total_updateJobs {jobs : List JobRow} (keyed : (jobs.map (·.id)).Nodup)
    {row : JobRow} (member : row ∈ jobs) (update : JobRow → JobRow) {before after : JobRow → Int}
    (others : ∀ other, other.id ≠ row.id → after other = before other) :
    total ((Book.updateJobs jobs row.id update).map after) =
      total (jobs.map before) - before row + after (update row) := by
  induction jobs with
  | nil => cases member
  | cons first rest ih =>
    rw [List.map_cons, List.nodup_cons] at keyed
    obtain ⟨fresh, keyed⟩ := keyed
    simp only [Book.updateJobs, List.map_cons, total] at ih ⊢
    -- If the first job is the changed one, no other job has its id.
    rcases List.mem_cons.mp member with rfl | member
    · have kept : ∀ other ∈ rest,
          after (if other.id = row.id then update other else other) = before other := by
        intro other present
        have apart : other.id ≠ row.id := fun same =>
          fresh (same ▸ List.mem_map_of_mem (f := (·.id)) present)
        rw [if_neg apart, others other apart]
      rw [List.map_map, if_pos rfl, Function.comp_def, List.map_congr_left kept]
      omega
    · have apart : first.id ≠ row.id := fun same =>
        fresh (same ▸ List.mem_map_of_mem (f := (·.id)) member)
      rw [if_neg apart, others first apart, ih keyed member]
      omega

end Amount

namespace Book

open Amount

/-- The prices of the jobs that count by their owner and the stage of their payment. -/
def priceSum (book : Book) (counts : String → PaymentStage → Bool) : Int :=
  total (book.jobs.map fun row =>
    if counts row.userId (book.stageOf row.id) then row.price else 0)

variable {book after : Book} {row : JobRow} {job : Job} {counts more : String → PaymentStage → Bool}

/-! ## Bounds -/

theorem Coherent.price_nonneg (coherent : book.Coherent) (member : row ∈ book.jobs) :
    0 ≤ row.price := by
  rcases (coherent.accounts row member).priced with ⟨free, _⟩ | ⟨_, _, price, positive, _⟩
  · simp [JobRow.price, free]
  · rw [JobRow.price, price]
    exact Int.le_of_lt positive

theorem priceSum_congr
    (same : ∀ row ∈ book.jobs, counts row.userId (book.stageOf row.id) =
      more row.userId (book.stageOf row.id)) : book.priceSum counts = book.priceSum more := by
  rw [priceSum, priceSum]
  congr 1
  apply List.map_congr_left
  intro row member
  rw [same row member]

/-- The more jobs count, the greater the sum. -/
private theorem Coherent.priceSum_mono (coherent : book.Coherent)
    (wider : ∀ row ∈ book.jobs, counts row.userId (book.stageOf row.id) →
      more row.userId (book.stageOf row.id)) : book.priceSum counts ≤ book.priceSum more := by
  apply total_map_le
  intro row member
  have nonneg := coherent.price_nonneg member
  have wide := wider row member
  by_cases counted : counts row.userId (book.stageOf row.id)
  · simp [counted, wide counted]
  · rw [if_neg counted]
    split <;> omega

theorem priceSum_eq_zero
    (none : ∀ row ∈ book.jobs, counts row.userId (book.stageOf row.id) = false) :
    book.priceSum counts = 0 := by
  have free : ∀ row ∈ book.jobs,
      (if counts row.userId (book.stageOf row.id) then row.price else 0) = 0 := by
    intro row member
    rw [none row member]
    rfl
  rw [priceSum, List.map_congr_left free, total_map_zero]

/-- A job that counts is part of the sum. -/
theorem Coherent.price_le_priceSum (coherent : book.Coherent) (member : row ∈ book.jobs)
    (counted : counts row.userId (book.stageOf row.id)) : row.price ≤ book.priceSum counts := by
  have nonneg : ∀ other ∈ book.jobs,
      0 ≤ if counts other.userId (book.stageOf other.id) then other.price else 0 := by
    intro other present
    have price := coherent.price_nonneg present
    split <;> omega
  have part := le_total_map nonneg member
  rwa [if_pos counted] at part

theorem Coherent.priceSum_nonneg (coherent : book.Coherent)
    (counts : String → PaymentStage → Bool) : 0 ≤ book.priceSum counts := by
  have none : book.priceSum (fun _ _ => false) = 0 := priceSum_eq_zero fun _ _ => rfl
  rw [← none]
  exact coherent.priceSum_mono fun _ _ counted => by cases counted

/-! ## Changes -/

/-- A change of one job changes a sum by the difference that this job makes. -/
private theorem Coherent.priceSum_confined (coherent : book.Coherent) (member : row ∈ book.jobs)
    {update : JobRow → JobRow} (confined : Confined row.id update book after) :
    after.priceSum counts = book.priceSum counts
      - (if counts row.userId (book.stageOf row.id) then row.price else 0)
      + (if counts row.userId (after.stageOf row.id) then (update row).price else 0) := by
  rw [priceSum, confined.jobs, total_updateJobs coherent.jobsKeyed member update]
  · rw [priceSum, confined.idKept, confined.ownerKept]
  · intro other apart
    rw [confined.stageOf_eq apart]

theorem Quiet.priceSum (step : Quiet book after) : after.priceSum counts = book.priceSum counts := by
  have told : after.stageOf = book.stageOf := by
    funext id
    rw [stageOf, stageOf, transactionRow?, transactionRow?, step.transactions]
  rw [Book.priceSum, told]
  cases step with
  | userAdded => rfl
  | jobAdded id request now =>
    rw [Book.jobAdded, withMove, List.map_append, total_append]
    simp [total, newJobRow, JobRow.price, Book.priceSum]
  | moved _ _ law now =>
    rw [Book.moved, map_updateJobs]
    · rfl
    · intro row
      rw [(law.sameTerms now row).userId, (law.sameTerms now row).id, JobRow.price,
        (law.sameTerms now row).amountSats, JobRow.price]
  | coded id code =>
    rw [Book.updateJob, map_updateJobs]
    · rfl
    · intro row
      rfl

theorem Coherent.priceSum_invoiced (coherent : book.Coherent) (member : row ∈ book.jobs)
    (shows : Shows row job) (uninvoiced : job.invoiceId = none)
    (underWay : job.status.isTerminal = false) {amountSats : Int} (positive : 0 < amountSats)
    (invoiceId : String) (now : Instant) :
    (book.invoiced job amountSats invoiceId now).priceSum counts =
      book.priceSum counts + if counts row.userId .pending then amountSats else 0 := by
  obtain ⟨_, told, _⟩ := coherent.invoiced member shows uninvoiced underWay positive invoiceId now
  have free : row.price = 0 := by
    rw [JobRow.price, (coherent.accounts row member).invoiceId_eq_none_iff.mp
      (shows.invoiceId.symm.trans uninvoiced)]
    rfl
  rw [coherent.priceSum_confined member (confined_invoiced shows amountSats invoiceId now), told,
    free]
  simp [pricedRow, JobRow.price]

theorem Coherent.priceSum_settled (coherent : book.Coherent) (member : row ∈ book.jobs)
    (shows : Shows row job) {next : JobStatus} {paymentStatus : String}
    (target : settlementTarget job = .ok (next, paymentStatus)) (now : Instant) :
    (book.settled job next paymentStatus now).priceSum counts = book.priceSum counts
      - (if counts row.userId (book.stageOf row.id) then row.price else 0)
      + (if counts row.userId (book.stageOf row.id).settle then row.price else 0) := by
  obtain ⟨_, told, _⟩ := coherent.settled member shows target now
  rw [coherent.priceSum_confined member (confined_settled shows next paymentStatus now), told]
  rfl

theorem Coherent.priceSum_writtenOff (coherent : book.Coherent) (member : row ∈ book.jobs)
    (shows : Shows row job) (edge : job.status.canMoveTo .completedReneged) (now : Instant) :
    (book.writtenOff job now).priceSum counts = book.priceSum counts
      - (if counts row.userId (book.stageOf row.id) then row.price else 0)
      + (if counts row.userId .reneged then row.price else 0) := by
  obtain ⟨_, told, _⟩ := coherent.writtenOff member shows edge now
  rw [coherent.priceSum_confined member (confined_writtenOff shows now), told]
  rfl

/-! ## All prices -/

def allPrices (book : Book) : Int :=
  book.priceSum fun _ _ => true

theorem Coherent.priceSum_le_allPrices (coherent : book.Coherent)
    (counts : String → PaymentStage → Bool) : book.priceSum counts ≤ book.allPrices :=
  coherent.priceSum_mono fun _ _ _ => rfl

def attachedTotal (events : List Event) : Int :=
  total (events.map (·.deed.attachedSats))

theorem Change.allPrices (coherent : book.Coherent) {deed : Deed} (positive : deed.Positive)
    (change : Change book deed after) :
    after.allPrices = book.allPrices + deed.attachedSats := by
  cases change with
  | quiet steps =>
    rw [Book.allPrices, steps_eq (·.priceSum fun _ _ => true) Quiet.priceSum steps]
    exact (Int.add_zero _).symm
  | invoiced member shows uninvoiced started underWay amountSats unused now =>
    exact coherent.priceSum_invoiced member shows uninvoiced underWay positive _ now
  | settled member shows unpaid target answered =>
    rw [Book.allPrices, coherent.priceSum_settled member shows target]
    simp [Book.allPrices, Deed.attachedSats]
  | writtenOff member shows allowed now =>
    rw [Book.allPrices, coherent.priceSum_writtenOff member shows allowed now]
    simp [Book.allPrices, Deed.attachedSats]

private theorem attachedTotal_concat (events : List Event) (event : Event) :
    attachedTotal (events ++ [event]) = attachedTotal events + event.deed.attachedSats := by
  simp [attachedTotal, total_append, total]

private theorem attachedSats_nonneg {deed : Deed} (positive : deed.Positive) :
    0 ≤ deed.attachedSats := by
  cases deed with
  | invoiced id amountSats => exact Int.le_of_lt positive
  | _ => exact Int.le_refl 0

/-- What holds of the empty book and is kept by every change as long as all prices together keep
to a limit holds after every session whose invoices together keep to it. -/
theorem bounded_session {invariant : Book → Prop} (limit : Int) (start : invariant .empty)
    (step : ∀ {book after : Book} {deed : Deed}, book.Coherent → deed.Positive →
      after.allPrices ≤ limit → Change book deed after → invariant book → invariant after)
    (operations : List Operation) (positive : ∀ operation ∈ operations, operation.Positive)
    (bounded : attachedTotal (Book.empty.session operations).1 ≤ limit) :
    (Book.empty.session operations).2.allPrices ≤ limit ∧
      invariant (Book.empty.session operations).2 := by
  let motive (events : List Event) (book : Book) : Prop :=
    book.Coherent ∧ book.allPrices = attachedTotal events ∧
      (attachedTotal events ≤ limit → invariant book)
  have all : motive (Book.empty.session operations).1 (Book.empty.session operations).2 := by
    apply session_induction Operation.Positive _ _ operations positive
    · exact ⟨coherent_empty, rfl, fun _ => start⟩
    · rintro events book operation allowed ⟨coherent, sum, kept⟩
      have positive := allowed.deed (book.perform operation).1
      have change := perform_change coherent.jobsKeyed operation
      have nonneg := attachedSats_nonneg positive
      have grown := change.allPrices coherent positive
      rw [sum, ← attachedTotal_concat events ⟨operation, (book.perform operation).1⟩] at grown
      refine ⟨coherent.change positive change, grown, fun below => ?_⟩
      rw [attachedTotal_concat] at below
      apply step coherent positive _ change (kept (by omega))
      rwa [grown, attachedTotal_concat]
  obtain ⟨_, sum, kept⟩ := all
  exact ⟨sum ▸ bounded, kept bounded⟩

end Book

end JobRelay
