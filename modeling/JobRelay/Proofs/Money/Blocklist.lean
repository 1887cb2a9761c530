import JobRelay.Proofs.Money.Prices

/-! # The blocklist is exact

Under every email hash stands the sum of the prices of the jobs that are written off and not paid
since, over all users with that hash. A write-off adds its price, a late payment takes the same
price away, and a row without debt is dropped.
-/

namespace JobRelay.Book

open Amount

/-! ## Rows under a hash -/

/-- The debt under an email hash, if there is a row for it. -/
def debtUnder (rows : List BlocklistRow) (hash : String) : Option Int :=
  (rows.find? (·.emailHash == hash)).map (·.debtSats)

private theorem debtUnder_cons (row : BlocklistRow) (rows : List BlocklistRow) (hash : String) :
    debtUnder (row :: rows) hash =
      if row.emailHash = hash then some row.debtSats else debtUnder rows hash := by
  by_cases here : row.emailHash = hash <;> simp [debtUnder, here]

private theorem debtUnder_of_absent {rows : List BlocklistRow} {hash : String}
    (absent : hash ∉ rows.map (·.emailHash)) : debtUnder rows hash = none := by
  rw [debtUnder, Option.map_eq_none_iff, List.find?_eq_none]
  intro row member same
  exact absent (List.mem_map.mpr ⟨row, member, by simpa using same⟩)

/-- The rows with the debt under a hash changed. -/
def changedRows (rows : List BlocklistRow) (hash : String) (change : Int → Int) (now : Instant) :
    List BlocklistRow :=
  rows.map fun row =>
    if row.emailHash = hash then
      { row with debtSats := change row.debtSats, updatedAt := now.stored }
    else row

private theorem changedRows_eq (rows : List BlocklistRow) (hash : String) (change : Int → Int)
    (now : Instant) :
    changedRows rows hash change now =
      changedUnder (·.emailHash) hash
        (fun row => { row with debtSats := change row.debtSats, updatedAt := now.stored }) rows :=
  rfl

private theorem raisedRows_eq (rows : List BlocklistRow) (hash : String) (amountSats : Int)
    (now : Instant) :
    raisedRows rows hash amountSats now =
      putUnder (·.emailHash) { emailHash := hash, debtSats := amountSats, updatedAt := now.stored }
        (fun row =>
          { row with debtSats := Amount.add row.debtSats amountSats, updatedAt := now.stored })
        rows :=
  rfl

private theorem map_emailHash_changedRows (rows : List BlocklistRow) (hash : String)
    (change : Int → Int) (now : Instant) :
    (changedRows rows hash change now).map (·.emailHash) = rows.map (·.emailHash) :=
  map_changedUnder fun _ _ => rfl

private theorem debtUnder_changedRows (rows : List BlocklistRow) (hash : String)
    (change : Int → Int) (now : Instant) (other : String) :
    debtUnder (changedRows rows hash change now) other =
      if other = hash then (debtUnder rows other).map change else debtUnder rows other := by
  rw [changedRows_eq, debtUnder, find?_changedUnder, debtUnder]
  · by_cases asked : other = hash
    · rw [if_pos asked, if_pos asked]
      cases rows.find? (·.emailHash == other) <;> rfl
    · rw [if_neg asked, if_neg asked]
  · exact fun _ here => here

/-- Dropping an empty row under a hash drops the only row there. -/
private theorem debtUnder_dropped {rows : List BlocklistRow}
    (keyed : (rows.map (·.emailHash)).Nodup) (hash other : String) :
    debtUnder (rows.filter fun row => !(row.emailHash == hash && row.debtSats == 0)) other =
      if other = hash then (debtUnder rows other).filter (· ≠ 0) else debtUnder rows other := by
  induction rows with
  | nil => simp [debtUnder]
  | cons row rest ih =>
    rw [List.map_cons, List.nodup_cons] at keyed
    obtain ⟨fresh, keyed⟩ := keyed
    rw [List.filter_cons, debtUnder_cons]
    by_cases dropped : row.emailHash = hash ∧ row.debtSats = 0
    · obtain ⟨rfl, empty⟩ := dropped
      rw [if_neg (by simp [empty]), ih keyed]
      by_cases asked : other = row.emailHash
      · subst asked
        simp [debtUnder_of_absent fresh, empty, Option.filter]
      · simp [asked, Ne.symm asked]
    · rw [if_pos (by simpa [imp_iff_not_or] using dropped), debtUnder_cons, ih keyed]
      by_cases here : row.emailHash = other
      · rw [if_pos here, if_pos here]
        by_cases asked : other = hash
        · have owed : row.debtSats ≠ 0 := fun empty => dropped ⟨here.trans asked, empty⟩
          simp [asked, owed, Option.filter]
        · rw [if_neg asked]
      · rw [if_neg here, if_neg here]

/-- A write-off adds to the debt under its hash, or begins it. -/
theorem debtUnder_raisedRows (rows : List BlocklistRow) (hash : String) (amountSats : Int)
    (now : Instant) (other : String) :
    debtUnder (raisedRows rows hash amountSats now) other =
      if other = hash then some ((debtUnder rows other).elim amountSats (Amount.add · amountSats))
      else debtUnder rows other := by
  rw [raisedRows_eq, debtUnder, find?_putUnder, debtUnder]
  · by_cases asked : other = hash
    · rw [if_pos asked, if_pos asked]
      cases rows.find? (·.emailHash == other) <;> rfl
    · rw [if_neg asked, if_neg asked]
  · exact fun _ here => here

/-- A late payment lowers the debt under its hash, and drops it at zero. -/
private theorem debtUnder_loweredRows {rows : List BlocklistRow}
    (keyed : (rows.map (·.emailHash)).Nodup) (hash : String) (amountSats : Int) (now : Instant)
    (other : String) :
    debtUnder (loweredRows rows hash amountSats now) other =
      if other = hash then ((debtUnder rows other).map (Amount.lower · amountSats)).filter (· ≠ 0)
      else debtUnder rows other := by
  have changed :
      ((changedRows rows hash (Amount.lower · amountSats) now).map (·.emailHash)).Nodup := by
    rwa [map_emailHash_changedRows]
  refine (debtUnder_dropped changed hash other).trans ?_
  rw [debtUnder_changedRows]
  by_cases asked : other = hash
  · rw [if_pos asked, if_pos asked, if_pos asked]
  · rw [if_neg asked, if_neg asked, if_neg asked]

private theorem nodup_raisedRows {rows : List BlocklistRow} (keyed : (rows.map (·.emailHash)).Nodup)
    (hash : String) (amountSats : Int) (now : Instant) :
    ((raisedRows rows hash amountSats now).map (·.emailHash)).Nodup := by
  rw [raisedRows_eq]
  exact nodup_putUnder keyed fun _ here => here

private theorem nodup_loweredRows {rows : List BlocklistRow}
    (keyed : (rows.map (·.emailHash)).Nodup) (hash : String) (amountSats : Int) (now : Instant) :
    ((loweredRows rows hash amountSats now).map (·.emailHash)).Nodup := by
  have changed :
      ((changedRows rows hash (Amount.lower · amountSats) now).map (·.emailHash)).Nodup := by
    rwa [map_emailHash_changedRows]
  exact changed.sublist (List.filter_sublist.map _)

/-! ## Written-off jobs -/

/-- Whether a job counts under an email hash: its owner has the hash, and it is written off and not
paid since. -/
def blocks (book : Book) (hash owner : String) (stage : PaymentStage) : Bool :=
  book.hashOf owner == some hash && stage == .reneged

/-- The debt that written-off jobs leave under an email hash. -/
def blockedSats (book : Book) (hash : String) : Int :=
  book.priceSum (book.blocks hash)

/-- What is listed of a debt. -/
def listed (debt : Int) : Option Int :=
  if 0 < debt then some debt else none

private theorem raised_listed {debt amountSats : Int} (nonneg : 0 ≤ debt)
    (positive : 0 < amountSats) (below : debt + amountSats ≤ Text.maxInt64) :
    some ((listed debt).elim amountSats (Amount.add · amountSats)) =
      listed (debt + amountSats) := by
  rw [listed, listed, if_pos (show 0 < debt + amountSats by omega)]
  by_cases owed : 0 < debt
  · simp [owed, add_eq_of_le nonneg (Int.le_of_lt positive) below]
  · have free : debt = 0 := by omega
    simp [free]

private theorem lowered_listed {debt amountSats : Int} (positive : 0 < amountSats)
    (le : amountSats ≤ debt) (below : debt ≤ Text.maxInt64) :
    ((listed debt).map (Amount.lower · amountSats)).filter (· ≠ 0) =
      listed (debt - amountSats) := by
  rw [listed, listed, if_pos (show 0 < debt by omega), Option.map_some,
    lower_eq_of_le (Int.le_of_lt positive) le below]
  by_cases rest : 0 < debt - amountSats
  · have owed : debt - amountSats ≠ 0 := by omega
    have greater : amountSats < debt := by omega
    simp [Option.filter, owed, greater]
  · have free : debt - amountSats = 0 := by omega
    simp [Option.filter, free]

/-- Under each hash with written-off debt stands one row, which holds that debt. -/
structure Blocked (book : Book) : Prop where
  keyed : (book.blocklist.map (·.emailHash)).Nodup
  exact : ∀ hash, debtUnder book.blocklist hash = listed (book.blockedSats hash)

variable {book after : Book} {row : JobRow} {job : Job}

private theorem Coherent.blockedSats_nonneg (coherent : book.Coherent) (hash : String) :
    0 ≤ book.blockedSats hash :=
  coherent.priceSum_nonneg _

theorem SameUsers.blockedSats_eq (same : SameUsers book after) (hash : String) :
    after.blockedSats hash = after.priceSum (book.blocks hash) := by
  apply priceSum_congr
  intro row _
  rw [blocks, blocks, same.hashOf_eq]

/-- A new user changes the hash of no owner. -/
private theorem Coherent.blockedSats_quiet (coherent : book.Coherent) (step : Quiet book after)
    (hash : String) : after.blockedSats hash = book.blockedSats hash := by
  have owners : ∀ row ∈ book.jobs, after.hashOf row.userId = book.hashOf row.userId := by
    intro row member
    cases step with
    | userAdded =>
      obtain ⟨user, known, owns⟩ := coherent.owners row member
      have found : (book.users.find? (·.id == row.userId)).isSome :=
        List.find?_isSome.mpr ⟨user, known, by simp [owns]⟩
      rw [hashOf, userRow?, List.find?_append, Option.or_of_isSome found]
      rfl
    | _ => rfl
  rw [blockedSats, step.priceSum]
  apply priceSum_congr
  intro row member
  rw [blocks, blocks, owners row member]

private theorem Quiet.blocklist (step : Quiet book after) : after.blocklist = book.blocklist := by
  cases step <;> rfl

/-- The part of a price that a job blocks under a hash. -/
def chargedTo (book : Book) (row : JobRow) (hash : String) : Int :=
  if book.hashOf row.userId = some hash then row.price else 0

/-- Either a job blocks nothing, or it blocks its price under the hash of its owner. -/
theorem Coherent.charge_cases (coherent : book.Coherent) (member : row ∈ book.jobs)
    (shows : Shows row job) :
    (book.charge job = none ∧ ∀ hash, book.chargedTo row hash = 0) ∨
      ∃ hash amountSats, book.charge job = some (hash, amountSats) ∧ 0 < amountSats ∧
        ∀ other, book.chargedTo row other = if other = hash then amountSats else 0 := by
  have account := coherent.accounts row member
  rw [charge, account.positivePrice_eq shows, shows.userId]
  cases price : row.amountSats with
  | none => exact .inl ⟨rfl, fun hash => by simp [chargedTo, JobRow.price, price]⟩
  | some amountSats =>
    cases owner : book.hashOf row.userId with
    | none => exact .inl ⟨rfl, fun hash => by simp [chargedTo, owner]⟩
    | some hash =>
      refine .inr ⟨hash, amountSats, rfl, account.positive price, fun other => ?_⟩
      simp [chargedTo, owner, JobRow.price, price, eq_comm]

/-! ## One change -/

private theorem blockedSats_writtenOff (coherent : book.Coherent) (member : row ∈ book.jobs)
    (shows : Shows row job) (edge : job.status.canMoveTo .completedReneged) (now : Instant)
    (hash : String) :
    (book.writtenOff job now).blockedSats hash =
      book.blockedSats hash + book.chargedTo row hash := by
  have other : book.stageOf row.id ≠ .reneged := by
    rcases (coherent.writtenOff member shows edge now).1 with before | before <;> rw [before] <;>
      decide
  rw [(confined_writtenOff shows now).users.blockedSats_eq,
    coherent.priceSum_writtenOff member shows edge, ← blockedSats]
  simp [blocks, other, chargedTo]

/-- A write-off adds its price under the hash of its owner. -/
theorem Blocked.writtenOff (blocked : book.Blocked) (coherent : book.Coherent)
    (member : row ∈ book.jobs) (shows : Shows row job)
    (edge : job.status.canMoveTo .completedReneged) (now : Instant)
    (bounded : (book.writtenOff job now).allPrices ≤ Text.maxInt64) :
    (book.writtenOff job now).Blocked := by
  have sums := blockedSats_writtenOff coherent member shows edge now
  have rows : (book.writtenOff job now).blocklist = book.dunnedRows job now := rfl
  rcases coherent.charge_cases member shows with
    ⟨free, charged⟩ | ⟨hash, amountSats, charge, positive, charged⟩
  · rw [dunnedRows, free] at rows
    refine ⟨rows ▸ blocked.keyed, fun other => ?_⟩
    rw [sums, charged, rows, blocked.exact, Int.add_zero]
  · rw [dunnedRows, charge] at rows
    refine ⟨rows ▸ nodup_raisedRows blocked.keyed hash amountSats now, fun other => ?_⟩
    have below := (coherent.writtenOff member shows edge now).2.2.priceSum_le_allPrices
      ((book.writtenOff job now).blocks other)
    rw [← blockedSats] at below
    rw [sums, charged] at below ⊢
    rw [rows, debtUnder_raisedRows, blocked.exact]
    by_cases asked : other = hash
    · rw [if_pos asked] at below
      rw [if_pos asked, if_pos asked]
      exact raised_listed (coherent.blockedSats_nonneg other) positive (by omega)
    · rw [if_neg asked, if_neg asked, Int.add_zero]

private theorem blockedSats_settled (coherent : book.Coherent) (member : row ∈ book.jobs)
    (shows : Shows row job) {next : JobStatus} {paymentStatus : String}
    (target : settlementTarget job = .ok (next, paymentStatus)) (now : Instant) (hash : String) :
    (book.settled job next paymentStatus now).blockedSats hash =
      book.blockedSats hash -
        if book.stageOf row.id = .reneged then book.chargedTo row hash else 0 := by
  rw [(confined_settled shows next paymentStatus now).users.blockedSats_eq,
    coherent.priceSum_settled member shows target, ← blockedSats]
  have closed : (book.stageOf row.id).settle ≠ .reneged := by cases book.stageOf row.id <;> decide
  by_cases late : book.stageOf row.id = .reneged
  · rw [late] at closed ⊢
    simp [blocks, closed, chargedTo]
  · simp [blocks, closed, late]

/-- A written-off job is part of the debt under the hash of its owner. -/
private theorem Coherent.chargedTo_le (coherent : book.Coherent) (member : row ∈ book.jobs)
    (late : book.stageOf row.id = .reneged) (hash : String) :
    book.chargedTo row hash ≤ book.blockedSats hash := by
  by_cases owner : book.hashOf row.userId = some hash
  · rw [chargedTo, if_pos owner]
    exact coherent.price_le_priceSum member (by simp [blocks, owner, late])
  · rw [chargedTo, if_neg owner]
    exact coherent.blockedSats_nonneg hash

/-- Paying a job that is not written off leaves the blocklist alone. -/
theorem blocklist_settled (coherent : book.Coherent) (member : row ∈ book.jobs)
    (shows : Shows row job) {next : JobStatus} {paymentStatus : String}
    (target : settlementTarget job = .ok (next, paymentStatus)) (now : Instant)
    (other : book.stageOf row.id ≠ .reneged) :
    (book.settled job next paymentStatus now).blocklist = book.blocklist := by
  have word := (coherent.settled member shows target now).2.2.2
  have prompt : paymentStatus ≠ "eventual" := by
    rw [PaymentStage.word_settle other, Option.some.injEq] at word
    rw [word]
    decide
  show book.paidOffRows job paymentStatus now = book.blocklist
  unfold paidOffRows
  split
  · rw [if_neg prompt]
  · rfl

/-- A late payment takes its price away from under the hash of its owner. -/
theorem Blocked.settled (blocked : book.Blocked) (coherent : book.Coherent)
    (bounded : book.allPrices ≤ Text.maxInt64) (member : row ∈ book.jobs) (shows : Shows row job)
    {next : JobStatus} {paymentStatus : String}
    (target : settlementTarget job = .ok (next, paymentStatus)) (now : Instant) :
    (book.settled job next paymentStatus now).Blocked := by
  have sums := blockedSats_settled coherent member shows target now
  by_cases late : book.stageOf row.id = .reneged
  · have word := (coherent.settled member shows target now).2.2.2
    rw [late] at word
    obtain rfl : paymentStatus = "eventual" := Option.some.inj word
    simp only [late, if_true] at sums
    have rows : (book.settled job next "eventual" now).blocklist =
      book.paidOffRows job "eventual" now := rfl
    rcases coherent.charge_cases member shows with
      ⟨free, charged⟩ | ⟨hash, amountSats, charge, positive, charged⟩
    · rw [paidOffRows, free] at rows
      refine ⟨rows ▸ blocked.keyed, fun other => ?_⟩
      rw [sums, charged, rows, blocked.exact, Int.sub_zero]
    · simp only [paidOffRows, charge, if_true] at rows
      refine ⟨rows ▸ nodup_loweredRows blocked.keyed hash amountSats now, fun other => ?_⟩
      have below := coherent.priceSum_le_allPrices (book.blocks other)
      rw [← blockedSats] at below
      have part := coherent.chargedTo_le member late other
      rw [charged] at part
      rw [sums, charged, rows, debtUnder_loweredRows blocked.keyed, blocked.exact]
      by_cases asked : other = hash
      · rw [if_pos asked] at part
        rw [if_pos asked, if_pos asked]
        exact lowered_listed positive part (by omega)
      · rw [if_neg asked, if_neg asked, Int.sub_zero]
  · have rows := blocklist_settled coherent member shows target now late
    refine ⟨rows ▸ blocked.keyed, fun other => ?_⟩
    rw [sums, rows, blocked.exact, if_neg late, Int.sub_zero]

private theorem Blocked.quiet (blocked : book.Blocked) (coherent : book.Coherent)
    (step : Quiet book after) : after.Blocked where
  keyed := step.blocklist ▸ blocked.keyed
  exact hash := by rw [step.blocklist, coherent.blockedSats_quiet step, blocked.exact]

/-- Every change keeps the blocklist right as long as all prices together stay in range. -/
theorem Blocked.change (blocked : book.Blocked) (coherent : book.Coherent) {deed : Deed}
    (positive : deed.Positive) (bounded : after.allPrices ≤ Text.maxInt64)
    (change : Change book deed after) : after.Blocked := by
  have grown := change.allPrices coherent positive
  cases change with
  | quiet steps =>
    exact (coherent.quiet_induction
      (fun coherent step blocked => Blocked.quiet blocked coherent step) steps blocked).2
  | @invoiced row member job shows uninvoiced started underWay amountSats invoiceId unused now =>
    refine ⟨blocked.keyed, fun hash => ?_⟩
    rw [(confined_invoiced shows amountSats invoiceId now).users.blockedSats_eq,
      coherent.priceSum_invoiced member shows uninvoiced underWay positive, ← blockedSats]
    exact (blocked.exact hash).trans (by simp [blocks])
  | @settled row member job shows unpaid next paymentStatus target now answer answered =>
    have nothing : (Deed.settled answer).attachedSats = 0 := rfl
    rw [grown, nothing, Int.add_zero] at bounded
    exact blocked.settled coherent bounded member shows target now
  | writtenOff member shows allowed now =>
    exact blocked.writtenOff coherent member shows allowed now bounded

/-! ## Whole sessions -/

/-- Whether the payment record of a job says that it is written off and not paid since. -/
def reneged (book : Book) (jobId : String) : Bool :=
  (book.transactionRow? jobId).any (·.status == "reneged")

/-- The prices of the written-off jobs of the users with an email hash. -/
def renegedSats (book : Book) (hash : String) : Int :=
  total ((book.jobs.filter fun row => book.reneged row.id && book.hashOf row.userId == some hash).map
    (·.price))

private theorem reneged_eq (jobId : String) :
    book.reneged jobId = (book.stageOf jobId == .reneged) := by
  rw [Bool.eq_iff_iff, beq_iff_eq, stageOf, PaymentStage.ofWord_eq_reneged_iff, reneged]
  cases book.transactionRow? jobId <;> simp

private theorem renegedSats_eq (hash : String) : book.renegedSats hash = book.blockedSats hash := by
  rw [renegedSats, total_map_filter, blockedSats, priceSum]
  congr 1
  apply List.map_congr_left
  intro row _
  rw [reneged_eq, blocks, Bool.and_comm]

/-- The blocklist holds the written-off debt of every email hash, no more and no less; a prompt
payment leaves it alone, and a late one finds what it takes away. -/
structure BlocklistExact (book : Book) : Prop where
  keyed : (book.blocklist.map (·.emailHash)).Nodup
  exact : ∀ hash, (book.blocklistRow? hash).map (·.debtSats) =
    if 0 < book.renegedSats hash then some (book.renegedSats hash) else none
  untouched : ∀ operation job, Event.deed ⟨operation, (book.perform operation).1⟩ = .settled job →
    book.reneged job.id = false → (book.perform operation).2.blocklist = book.blocklist
  uncut : ∀ operation job, Event.deed ⟨operation, (book.perform operation).1⟩ = .settled job →
    book.reneged job.id → ∀ hash, book.hashOf job.userId = some hash →
      ∀ amountSats, job.amountSats = some amountSats →
        ∃ blocked, book.blocklistRow? hash = some blocked ∧ amountSats ≤ blocked.debtSats

/-- Every session in which less than the greatest amount is invoiced keeps the blocklist exact. -/
theorem blocklistExact_session (operations : List Operation)
    (positive : ∀ operation ∈ operations, operation.Positive)
    (bounded : attachedTotal (Book.empty.session operations).1 ≤ Text.maxInt64) :
    BlocklistExact (Book.empty.session operations).2 := by
  have coherent := (told_session operations positive).coherent
  obtain ⟨limit, blocked⟩ := bounded_session Text.maxInt64 ⟨.nil, fun _ => rfl⟩
    (fun coherent positive below change blocked =>
      Blocked.change blocked coherent positive below change)
    operations positive bounded
  generalize (Book.empty.session operations).2 = book at coherent limit blocked ⊢
  refine ⟨blocked.keyed, ?_, ?_, ?_⟩
  · intro hash
    rw [renegedSats_eq]
    exact blocked.exact hash
  · intro operation job settles prompt
    obtain ⟨row, member, found, next, paymentStatus, now, shows, target, answered, written⟩ :=
      perform_settled coherent.jobsKeyed settles
    rw [written]
    apply blocklist_settled coherent member shows target now
    rw [reneged_eq, answered.id] at prompt
    exact beq_eq_false_iff_ne.mp prompt
  · intro operation job settles late hash owner amountSats price
    obtain ⟨row, member, found, next, paymentStatus, now, shows, target, answered, written⟩ :=
      perform_settled coherent.jobsKeyed settles
    have stage : book.stageOf row.id = .reneged := by
      rw [reneged_eq, answered.id] at late
      exact eq_of_beq late
    have owns : book.hashOf row.userId = some hash := answered.userId ▸ owner
    have price : row.amountSats = some amountSats := answered.amountSats.symm.trans price
    have positive := (coherent.accounts row member).positive price
    have part := coherent.chargedTo_le member stage hash
    rw [chargedTo, if_pos owns, JobRow.price, price, Option.getD_some] at part
    have under := blocked.exact hash
    rw [listed, if_pos (by omega), debtUnder, Option.map_eq_some_iff] at under
    obtain ⟨found, known, debt⟩ := under
    exact ⟨found, known, debt ▸ part⟩

theorem blocklistExact_writeOffs :
    (Book.empty.session (writeOffs (some "u@v"))).2.blocklist.map (·.debtSats) = [700] ∧
      BlocklistExact (Book.empty.session (writeOffs (some "u@v"))).2 :=
  ⟨by decide +kernel,
    blocklistExact_session (writeOffs (some "u@v")) (by decide) (by decide +kernel)⟩

end JobRelay.Book
