import JobRelay.Monitor.Staleness
import JobRelay.Proofs.Book.Statements
import JobRelay.Proofs.Calendar.Order
import Mathlib.Data.List.Perm.Basic

/-! # Finding stuck jobs

Each status under watch is searched on its own, by comparing texts with a cutoff. Stored texts
compare like instants, also with a cutoff before the year 0, so together the searches find the jobs
that have stood for longer than their status allows, each of them once. Sorting is stable, so a
status that is not searched is only left out.
-/

namespace JobRelay

/-! ## Sorting and selecting -/

section Sorting

variable {α : Type} {le : α → α → Bool}

/-- A list splits in one way into what fulfils a condition and what does not. -/
private theorem append_inj_of_split {p : α → Bool} {xs ys us vs : List α}
    (same : xs ++ ys = us ++ vs) (fulfil : ∀ a ∈ xs ++ us, p a) (rest : ∀ a ∈ ys ++ vs, ¬p a) :
    xs = us ∧ ys = vs := by
  have front : xs = us := by
    have chosen := congrArg (List.filter p) same
    rwa [List.filter_append, List.filter_append,
      List.filter_eq_self.mpr fun a member => fulfil a (List.mem_append_left _ member),
      List.filter_eq_self.mpr fun a member => fulfil a (List.mem_append_right _ member),
      List.filter_eq_nil_iff.mpr fun a member => rest a (List.mem_append_left _ member),
      List.filter_eq_nil_iff.mpr fun a member => rest a (List.mem_append_right _ member),
      List.append_nil, List.append_nil] at chosen
  subst front
  exact ⟨rfl, List.append_cancel_left same⟩

/-- Sorting commutes with selecting, since equals keep their order. -/
private theorem filter_mergeSort (trans : ∀ a b c, le a b → le b c → le a c)
    (total : ∀ a b, le a b || le b a) (keep : α → Bool) (items : List α) :
    (items.mergeSort le).filter keep = (items.filter keep).mergeSort le := by
  -- What follows an item in its sorted list is not less.
  have notLess {item : α} {front back rest : List α}
      (sorted : rest.mergeSort le = front ++ item :: back) : ∀ a ∈ back, le item a := by
    have increasing := List.pairwise_mergeSort trans total rest
    rw [sorted, List.pairwise_append, List.pairwise_cons] at increasing
    exact increasing.2.1.1
  induction items with
  | nil => simp
  | cons item rest ih =>
    obtain ⟨before, after, sorted, others, less⟩ := List.mergeSort_cons trans total item rest
    rw [others, List.filter_append] at ih
    by_cases kept : keep item
    · obtain ⟨front, back, sorted', others', less'⟩ :=
        List.mergeSort_cons trans total item (rest.filter keep)
      obtain ⟨same, same'⟩ : before.filter keep = front ∧ after.filter keep = back := by
        apply append_inj_of_split (p := fun a => !le item a) (ih.trans others')
        · intro a member
          rcases List.mem_append.mp member with here | here
          · exact less a (List.mem_filter.mp here).1
          · exact less' a here
        · intro a member
          rcases List.mem_append.mp member with here | here
          · simpa using notLess sorted a (List.mem_filter.mp here).1
          · simpa using notLess sorted' a here
      rw [sorted, List.filter_append, List.filter_cons_of_pos kept, List.filter_cons_of_pos kept,
        sorted', same, same']
    · rw [sorted, List.filter_append, List.filter_cons_of_neg kept, List.filter_cons_of_neg kept,
        ih]

/-- What fulfils one of two conditions that exclude each other is what fulfils the one together
with what fulfils the other. -/
private theorem filter_or_perm {p q : α → Bool} (items : List α)
    (disjoint : ∀ a ∈ items, p a → q a = false) :
    (items.filter fun a => p a || q a).Perm (items.filter p ++ items.filter q) := by
  have split := List.filter_append_perm p (items.filter fun a => p a || q a)
  rw [List.filter_filter, List.filter_filter] at split
  refine split.symm.trans (.of_eq ?_)
  congr 1
  · apply List.filter_congr
    intro a _
    cases p a <;> rfl
  · apply List.filter_congr
    intro a member
    cases first : p a with
    | true => simp [disjoint a member first]
    | false => simp

end Sorting

/-! ## Cutoffs -/

namespace Instant

/-- An instant some minutes earlier. -/
def earlier (t : Instant) (minutes : Int) : Instant :=
  ⟨t.seconds - 60 * minutes, t.nanos⟩

variable {s now : Instant} {minutes : Int}

/-- The limits that settings may have lead to cutoffs that can be kept. -/
private theorem Dated.minusMinutes?_eq (dated : now.Dated) (plain : now.nanos < nanosPerSecond)
    (least : 1 ≤ minutes) (most : minutes ≤ ConfigFault.maxStalenessMinutes) :
    now.minusMinutes? minutes = some (now.earlier minutes) := by
  have first := dated.first
  have last := dated.last
  have low : leastSecond ≤ -62167219200 - 60 * ConfigFault.maxStalenessMinutes := by decide +kernel
  have high : 253402300799 ≤ greatestSecond := by decide +kernel
  unfold ConfigFault.maxStalenessMinutes at low most
  have span : ¬(60 * minutes < -(greatestSpanMillis / 1000) ∨
      greatestSpanMillis / 1000 < 60 * minutes) := by
    unfold greatestSpanMillis
    omega
  have whole : ¬nanosPerSecond ≤ now.nanos := Nat.not_le.mpr plain
  simp only [minusMinutes?, Int.mul_comm minutes, whole, false_and, if_false]
  rw [if_neg span, if_pos (by omega), earlier]

/-- A stored text comes before that of a cutoff just when its instant does. -/
private theorem Dated.stored_lt_earlier_iff (first : s.Dated) (dated : now.Dated)
    (least : 1 ≤ minutes) (plain : now.nanos < nanosPerSecond) :
    s.stored < (now.earlier minutes).stored ↔ s.toMillis.before (now.earlier minutes).toMillis := by
  by_cases early : now.seconds - 60 * minutes < -62167219200
  · exact first.stored_lt_iff_of_early early
  · refine first.stored_lt_iff ⟨Int.not_lt.mp early, ?_, .inl plain⟩
    have last := dated.last
    simp only [earlier]
    omega

/-- Whoever moved before the cutoff of a limit has stood for as long at least. -/
private theorem le_minutesUntil (plain : s.nanos < nanosPerSecond)
    (plain' : now.nanos < nanosPerSecond) (least : 1 ≤ minutes)
    (late : s.toMillis.before (now.earlier minutes).toMillis) : minutes ≤ s.minutesUntil now := by
  rw [before_iff] at late
  simp only [toMillis, earlier] at late
  have whole : ¬nanosPerSecond ≤ s.nanos := Nat.not_le.mpr plain
  have whole' : ¬nanosPerSecond ≤ now.nanos := Nat.not_le.mpr plain'
  have elapsed : minutes * (60 * nanosPerSecond) ≤ s.nanosUntil now := by
    simp only [nanosUntil, whole, whole', if_false, ite_self]
    unfold nanosPerSecond at plain plain' ⊢
    omega
  unfold nanosPerSecond at elapsed
  rw [minutesUntil, nanosPerSecond, Int.tdiv_eq_ediv_of_nonneg (by omega)]
  omega

end Instant

/-! ## What is to be found -/

/-- How many minutes a job may stay in a status, if the status is under watch. -/
def StalenessThresholds.limit? (s : StalenessThresholds) : JobStatus → Option Int
  | .dispatched => some s.dispatched
  | .active => some s.active
  | .awaitingOtp => some s.awaitingOtp
  | .outreachSent => some s.outreachSent
  | _ => none

/-- Whether a job has stood for more than the minutes that its status allows, in whole
milliseconds. -/
def StalenessThresholds.isExceededBy (s : StalenessThresholds) (now : Instant) (job : Job) : Bool :=
  (s.limit? job.status).any fun minutes =>
    job.statusUpdatedAt.toMillis.before (now.earlier minutes).toMillis

/-- Whether jobs in a status are searched for: it is under watch, and its limit has a cutoff. -/
def StalenessThresholds.reaches (s : StalenessThresholds) (now : Instant) (status : JobStatus) :
    Bool :=
  ((s.limit? status).bind now.minusMinutes?).isSome

/-- What is answered about a stuck job. -/
def StuckJob.ofJob (now : Instant) (job : Job) : StuckJob :=
  { jobId := job.id
    userId := job.userId
    serviceId := job.serviceId
    status := job.status
    statusUpdatedAt := job.statusUpdatedAt
    minutesStuck := job.statusUpdatedAt.minutesUntil now }

/-- A text in the stored form of an instant of the years 0 to 9999 outside leap seconds. -/
def Instant.IsStored (text : String) : Prop :=
  ∃ t : Instant, t.Dated ∧ t.nanos < nanosPerSecond ∧ text = t.stored

private theorem StalenessThresholds.nodup_watched (s : StalenessThresholds) :
    (s.watched.map Prod.fst).Nodup := by
  simp [watched]

private theorem StalenessThresholds.limit?_of_mem {s : StalenessThresholds} {w : JobStatus × Int}
    (member : w ∈ s.watched) : s.limit? w.1 = some w.2 ∧ w.2 ∈ s.toList := by
  simp only [watched, List.mem_cons, List.not_mem_nil, or_false] at member
  rcases member with rfl | rfl | rfl | rfl <;> simp [limit?, toList]

namespace Book

variable {book : Book} {jobs : List Job} {now : Instant} {watched : JobStatus × Int}

/-- Whether a job stands in a status under watch and moved before the cutoff. -/
def standsOver (now : Instant) (watched : JobStatus × Int) (job : Job) : Bool :=
  decide (job.status = watched.1) &&
    job.statusUpdatedAt.toMillis.before (now.earlier watched.2).toMillis

private theorem isExceededBy_eq (thresholds : StalenessThresholds) (job : Job) :
    thresholds.isExceededBy now job = thresholds.watched.any (standsOver now · job) := by
  unfold StalenessThresholds.isExceededBy StalenessThresholds.watched standsOver
  cases job.status <;> simp [StalenessThresholds.limit?]

/-! ## One status -/

/-- Jobs that can be read can be searched, whatever the limit and the time. -/
theorem stuckIn_succeeds (table : book.need .jobs = .ok ())
    (readable : ∀ row ∈ book.jobs, ∃ job, readJob row = .ok job) :
    ∃ found, book.stuckIn now watched = .ok found := by
  unfold stuckIn
  split
  · exact ⟨[], rfl⟩
  · refine bind_succeeds table (mapM_succeeds fun row member => ?_)
    have listed : row ∈ book.jobs := by
      rw [movedBefore, List.mem_mergeSort] at member
      exact (List.mem_filter.mp member).1
    obtain ⟨job, read⟩ := readable row listed
    exact bind_succeeds (readInstant_of_readJob read) ⟨_, rfl⟩

/-- What is found in a status is in this status, and is a job of the book. -/
private theorem mem_of_stuckIn {found : List StuckJob} (h : book.stuckIn now watched = .ok found)
    {stuck : StuckJob} (member : stuck ∈ found) :
    stuck.status = watched.1 ∧
      ∃ row ∈ book.jobs, row.id = stuck.jobId ∧ row.userId = stuck.userId := by
  unfold stuckIn at h
  split at h
  · cases h
    cases member
  · simp only [bind_eq_ok_iff] at h
    obtain ⟨_, _, rows⟩ := h
    obtain ⟨row, listed, read⟩ := exists_of_mem_mapM rows member
    rw [movedBefore, List.mem_mergeSort] at listed
    simp only [readStuck, bind_eq_ok_iff, pure_eq_ok_iff] at read
    obtain ⟨_, _, rfl⟩ := read
    exact ⟨rfl, row, (List.mem_filter.mp listed).1, rfl, rfl⟩

/-- A row in stored form and the job that it reads back as. -/
structure StoredAs (row : JobRow) (job : Job) : Prop where
  read : readJob row = .ok job
  form : Instant.IsStored row.statusUpdatedAt

/-- A row in stored form keeps its time in milliseconds. -/
private theorem StoredAs.time {row : JobRow} {job : Job} (stored : StoredAs row job) :
    ∃ t : Instant, t.Dated ∧ t.nanos < Instant.nanosPerSecond ∧ row.statusUpdatedAt = t.stored ∧
      job.statusUpdatedAt = t.toMillis := by
  obtain ⟨t, dated, plain, text⟩ := stored.form
  have time := readInstant_of_readJob stored.read
  rw [text, readInstant, dated.read?_stored] at time
  exact ⟨t, dated, plain, text, (Except.ok.inj time).symm⟩

/-- Cutting to milliseconds twice is cutting once. -/
private theorem toMillis_toMillis (t : Instant) : t.toMillis.toMillis = t.toMillis := by
  simp [Instant.toMillis]

private theorem readStuck_eq {row : JobRow} {job : Job} (read : readJob row = .ok job)
    {status : JobStatus} (here : row.status = status.name) :
    readStuck status now row = .ok (StuckJob.ofJob now job) := by
  have shown := shows_of_readJob read
  obtain rfl : status = job.status := JobStatus.name_inj (here.symm.trans shown.status)
  refine (bind_of_eq_ok (readInstant_of_readJob read)).trans ?_
  rw [← shown.id, ← shown.userId, ← shown.serviceId]
  rfl

section Searching

variable (dated : now.Dated) (plain : now.nanos < Instant.nanosPerSecond) (least : 1 ≤ watched.2)
include dated plain least

/-- A row is searched out just when its job has stood over. -/
theorem StoredAs.chosen_iff {row : JobRow} {job : Job} (stored : StoredAs row job) :
    (row.status == watched.1.name &&
        decide (row.statusUpdatedAt < (now.earlier watched.2).stored)) = true ↔
      standsOver now watched job = true := by
  obtain ⟨t, there, _, text, time⟩ := stored.time
  have status : row.status = watched.1.name ↔ job.status = watched.1 := by
    rw [(shows_of_readJob stored.read).status]
    exact ⟨JobStatus.name_inj, congrArg JobStatus.name⟩
  simp only [standsOver, Bool.and_eq_true, beq_iff_eq, decide_eq_true_eq]
  rw [status, text, time, toMillis_toMillis, there.stored_lt_earlier_iff dated least plain]

/-- The search of one status finds the jobs that have stood over in it. -/
theorem stuckIn_perm (most : watched.2 ≤ ConfigFault.maxStalenessMinutes)
    (table : book.need .jobs = .ok ()) (decoded : List.Forall₂ StoredAs book.jobs jobs) :
    ∃ found, book.stuckIn now watched = .ok found ∧
      found.Perm ((jobs.filter (standsOver now watched)).map (StuckJob.ofJob now)) := by
  have chosen : List.Forall₂ StoredAs
      (book.jobs.filter fun row => row.status == watched.1.name &&
        decide (row.statusUpdatedAt < (now.earlier watched.2).stored))
      (jobs.filter (standsOver now watched)) :=
    List.rel_filter (fun _ _ stored => stored.chosen_iff dated plain least) decoded
  have inStatus := (List.forall₂_and_left _ _).mpr
    ⟨fun row member => (List.mem_filter.mp member).2, chosen⟩
  have moved : (book.movedBefore watched.1 (now.earlier watched.2).stored).Perm _ :=
    List.mergeSort_perm _ _
  obtain ⟨sorted, rows, order⟩ := List.perm_comp_forall₂ moved inStatus
  refine ⟨sorted.map (StuckJob.ofJob now), ?_, order.map _⟩
  rw [stuckIn, dated.minusMinutes?_eq plain least most]
  refine (bind_of_eq_ok table).trans (mapM_eq_ok_iff.mpr ?_)
  rw [List.forall₂_map_right_iff]
  refine rows.imp ?_
  rintro row job ⟨here, stored⟩
  simp only [Bool.and_eq_true, beq_iff_eq] at here
  exact readStuck_eq stored.read here.1

omit least

/-- The searches of several statuses together find the jobs that have stood over in one of them. -/
private theorem searches_perm (table : book.need .jobs = .ok ())
    (decoded : List.Forall₂ StoredAs book.jobs jobs) {searched : List (JobStatus × Int)}
    (apart : (searched.map Prod.fst).Nodup)
    (within : ∀ w ∈ searched, 1 ≤ w.2 ∧ w.2 ≤ ConfigFault.maxStalenessMinutes) :
    ∃ found, searched.mapM (book.stuckIn now) = .ok found ∧ found.flatten.Perm
      ((jobs.filter fun job => searched.any (standsOver now · job)).map (StuckJob.ofJob now)) := by
  induction searched with
  | nil => exact ⟨[], rfl, by simp⟩
  | cons watched rest ih =>
    obtain ⟨new, apart⟩ := List.nodup_cons.mp apart
    obtain ⟨least, most⟩ := within watched List.mem_cons_self
    obtain ⟨here, first, order⟩ := stuckIn_perm dated plain least most table decoded
    obtain ⟨found, others, orders⟩ :=
      ih apart fun w member => within w (List.mem_cons_of_mem _ member)
    have disjoint : ∀ job ∈ jobs, standsOver now watched job →
        rest.any (standsOver now · job) = false := by
      intro job _ late
      rw [List.any_eq_false]
      intro other member again
      simp only [standsOver, Bool.and_eq_true, decide_eq_true_eq] at late again
      exact new (List.mem_map.mpr ⟨other, member, again.1.symm.trans late.1⟩)
    refine ⟨here :: found, ?_, ?_⟩
    · exact mapM_eq_ok_iff.mpr (.cons first (mapM_eq_ok_iff.mp others))
    · have together := (filter_or_perm jobs disjoint).map (StuckJob.ofJob now)
      rw [List.map_append] at together
      exact (order.append orders).trans together.symm

end Searching

/-! ## All statuses -/

/-- The order of what is found. -/
def staler (a b : StuckJob) : Bool :=
  !b.statusUpdatedAt.before a.statusUpdatedAt

private theorem staler_trans (a b c : StuckJob) (first : staler a b) (second : staler b c) :
    staler a c := by
  simp only [staler, Bool.not_eq_true', ← Bool.not_eq_true, Instant.before_iff] at first second ⊢
  omega

private theorem staler_total (a b : StuckJob) : staler a b || staler b a := by
  simp only [staler, Bool.or_eq_true, Bool.not_eq_true', ← Bool.not_eq_true, Instant.before_iff]
  omega

private theorem findStuck_eq {thresholds : StalenessThresholds} {found : List (List StuckJob)}
    (each : thresholds.watched.mapM (book.stuckIn now) = .ok found) :
    book.findStuck thresholds now = .ok (found.flatten.mergeSort staler) :=
  bind_of_eq_ok each

theorem findStuck_eq_ok {thresholds : StalenessThresholds} {stuck : List StuckJob}
    (h : book.findStuck thresholds now = .ok stuck) {job : StuckJob} (member : job ∈ stuck) :
    ∃ row ∈ book.jobs, row.id = job.jobId ∧ row.userId = job.userId := by
  simp only [findStuck, bind_eq_ok_iff, pure_eq_ok_iff] at h
  obtain ⟨found, each, rfl⟩ := h
  obtain ⟨part, listed, member⟩ := List.mem_flatten.mp (List.mem_mergeSort.mp member)
  obtain ⟨watched, _, search⟩ := exists_of_mem_mapM each listed
  exact (mem_of_stuckIn search member).2

/-- Searches without some of the statuses find what the full ones find in the others. -/
private theorem searches_without {keep : JobStatus → Bool} {searched full : List (JobStatus × Int)}
    (pairs : List.Forall₂ (fun w w' => w.1 = w'.1 ∧ keep w.1 = (now.minusMinutes? w.2).isSome ∧
      (w.2 = w'.2 ∨ now.minusMinutes? w.2 = none)) searched full) {found : List (List StuckJob)}
    (all : full.mapM (book.stuckIn now) = .ok found) :
    searched.mapM (book.stuckIn now) = .ok (found.map (·.filter (keep ·.status))) := by
  rw [mapM_eq_ok_iff] at all ⊢
  rw [List.forall₂_map_right_iff]
  induction pairs generalizing found with
  | nil =>
    cases all
    exact .nil
  | @cons w w' _ _ pair _ ih =>
    obtain ⟨same, kept, limit⟩ := pair
    cases all with
    | @cons _ part _ _ first others =>
      refine .cons ?_ (ih others)
      have status (stuck : StuckJob) (member : stuck ∈ part) : stuck.status = w.1 :=
        (mem_of_stuckIn first member).1.trans same.symm
      cases cutoff : now.minusMinutes? w.2 with
      | none =>
        have dropped : part.filter (keep ·.status) = [] := by
          rw [List.filter_eq_nil_iff]
          intro stuck member
          simp [status stuck member, kept, cutoff]
        rw [dropped, stuckIn, cutoff]
      | some time =>
        have whole : part.filter (keep ·.status) = part := by
          rw [List.filter_eq_self]
          intro stuck member
          simp [status stuck member, kept, cutoff]
        have alike : w = w' := Prod.ext same (limit.resolve_right (by simp [cutoff]))
        rw [whole, alike, first]

/-- What is found where times are kept in stored form and limits are in their range. -/
theorem findStuck_perm {thresholds : StalenessThresholds} (dated : now.Dated)
    (plain : now.nanos < Instant.nanosPerSecond) (table : book.need .jobs = .ok ())
    (decoded : List.Forall₂ StoredAs book.jobs jobs)
    (within : ∀ minutes ∈ thresholds.toList,
      1 ≤ minutes ∧ minutes ≤ ConfigFault.maxStalenessMinutes) :
    ∃ stuck, book.findStuck thresholds now = .ok stuck ∧
      stuck.Perm ((jobs.filter (thresholds.isExceededBy now)).map (StuckJob.ofJob now)) ∧
      (∀ job ∈ stuck, ∃ minutes, thresholds.limit? job.status = some minutes ∧
        minutes ≤ job.minutesStuck) ∧
      stuck.Pairwise (staler · ·) := by
  have limits : ∀ w ∈ thresholds.watched, 1 ≤ w.2 ∧ w.2 ≤ ConfigFault.maxStalenessMinutes :=
    fun w member => within w.2 (StalenessThresholds.limit?_of_mem member).2
  obtain ⟨found, each, order⟩ :=
    searches_perm dated plain table decoded thresholds.nodup_watched limits
  have all : (found.flatten.mergeSort staler).Perm
      ((jobs.filter (thresholds.isExceededBy now)).map (StuckJob.ofJob now)) := by
    rw [List.filter_congr fun job _ => isExceededBy_eq thresholds job]
    exact (List.mergeSort_perm _ _).trans order
  refine ⟨_, findStuck_eq each, all, ?_, List.pairwise_mergeSort staler_trans staler_total _⟩
  intro stuck member
  obtain ⟨job, listed, rfl⟩ := List.mem_map.mp (all.mem_iff.mp member)
  obtain ⟨present, late⟩ := List.mem_filter.mp listed
  obtain ⟨w, watched, late⟩ := List.any_eq_true.mp (isExceededBy_eq thresholds job ▸ late)
  simp only [standsOver, Bool.and_eq_true, decide_eq_true_eq] at late
  obtain ⟨here, late⟩ := late
  refine ⟨w.2, ?_, ?_⟩
  · rw [← (StalenessThresholds.limit?_of_mem watched).1, ← here, StuckJob.ofJob]
  · obtain ⟨row, _, kept⟩ := exists_of_mem_forall₂ decoded.flip present
    obtain ⟨t, _, plain', _, time⟩ := kept.time
    refine Instant.le_minutesUntil ?_ plain (limits w watched).1 late
    rw [time]
    exact (Nat.div_mul_le_self _ _).trans_lt plain'

/-- Thresholds that agree where they have a cutoff find the same in the statuses that they reach. -/
theorem findStuck_filter {thresholds full : StalenessThresholds} (table : book.need .jobs = .ok ())
    (readable : ∀ row ∈ book.jobs, ∃ job, readJob row = .ok job)
    (agree : ∀ status, thresholds.limit? status = full.limit? status ∨
      thresholds.reaches now status = false) :
    ∃ stuck, book.findStuck full now = .ok stuck ∧
      book.findStuck thresholds now =
        .ok (stuck.filter fun job => thresholds.reaches now job.status) := by
  obtain ⟨found, all⟩ : ∃ found, full.watched.mapM (book.stuckIn now) = .ok found :=
    mapM_succeeds fun _ _ => stuckIn_succeeds table readable
  have pair {status : JobStatus} {minutes minutes' : Int}
      (limit : thresholds.limit? status = some minutes)
      (limit' : full.limit? status = some minutes') :
      status = status ∧ thresholds.reaches now status = (now.minusMinutes? minutes).isSome ∧
        (minutes = minutes' ∨ now.minusMinutes? minutes = none) := by
    have reached : thresholds.reaches now status = (now.minusMinutes? minutes).isSome := by
      rw [StalenessThresholds.reaches, limit, Option.bind_some]
    refine ⟨rfl, reached, ?_⟩
    rcases agree status with same | none
    · rw [limit, limit'] at same
      exact .inl (Option.some.inj same)
    · rw [reached] at none
      exact .inr (by simpa using none)
  have pairs : List.Forall₂ (fun w w' => w.1 = w'.1 ∧
      thresholds.reaches now w.1 = (now.minusMinutes? w.2).isSome ∧
      (w.2 = w'.2 ∨ now.minusMinutes? w.2 = none)) thresholds.watched full.watched :=
    .cons (pair rfl rfl) (.cons (pair rfl rfl) (.cons (pair rfl rfl) (.cons (pair rfl rfl) .nil)))
  refine ⟨_, findStuck_eq all, ?_⟩
  rw [findStuck_eq (searches_without pairs all), filter_mergeSort staler_trans staler_total,
    List.filter_flatten]

/-! ## The stuck jobs -/

/-- Let the jobs of a book be readable. If their times are kept in stored form and limits are in
their range, then the stuck jobs are those that have stood for longer than their status allows, each
of them once and those that moved first in front, and none is shown to stand for less. Whatever the
limits and the form of the times are, a limit without a cutoff takes away the jobs of its status and
leaves the others as they were. -/
theorem findStuck_spec (book : Book) (jobs : List Job) (now : Instant)
    (table : book.need .jobs = .ok ()) (decoded : book.jobs.mapM readJob = .ok jobs) :
    (∀ thresholds : StalenessThresholds, now.Dated → now.nanos < Instant.nanosPerSecond →
      (∀ row ∈ book.jobs, Instant.IsStored row.statusUpdatedAt) →
      (∀ minutes ∈ thresholds.toList, 1 ≤ minutes ∧ minutes ≤ ConfigFault.maxStalenessMinutes) →
      ∃ stuck, book.findStuck thresholds now = .ok stuck ∧
        stuck.Perm ((jobs.filter (thresholds.isExceededBy now)).map (StuckJob.ofJob now)) ∧
        (∀ job ∈ stuck, ∃ minutes, thresholds.limit? job.status = some minutes ∧
          minutes ≤ job.minutesStuck) ∧
        stuck.Pairwise fun a b => ¬b.statusUpdatedAt.before a.statusUpdatedAt) ∧
    ∀ thresholds full : StalenessThresholds,
      (∀ status, thresholds.limit? status = full.limit? status ∨
        thresholds.reaches now status = false) →
      ∃ stuck, book.findStuck full now = .ok stuck ∧
        book.findStuck thresholds now =
          .ok (stuck.filter fun job => thresholds.reaches now job.status) := by
  rw [mapM_eq_ok_iff] at decoded
  constructor
  · intro thresholds dated plain form within
    have stored : List.Forall₂ StoredAs book.jobs jobs :=
      ((List.forall₂_and_left _ _).mpr ⟨form, decoded⟩).imp fun _ _ ⟨text, read⟩ => ⟨read, text⟩
    obtain ⟨stuck, found, order, limits, sorted⟩ := findStuck_perm dated plain table stored within
    refine ⟨stuck, found, order, limits, sorted.imp ?_⟩
    intro a b staler
    simpa [Book.staler] using staler
  · intro thresholds full agree
    refine findStuck_filter table (fun row member => ?_) agree
    obtain ⟨job, _, read⟩ := exists_of_mem_forall₂ decoded member
    exact ⟨job, read⟩

/-- A row of a job that was dispatched at a time given as text. -/
def dispatchedRow (since : String) : JobRow :=
  { id := "j", userId := "u", serviceId := "s", action := "cancel", triggerSource := "scheduled"
    status := "dispatched", statusUpdatedAt := since, createdAt := "2025-12-31T00:00:00.000Z" }

/-- The job of that row. -/
def dispatchedJob (since : Instant) : Job :=
  { id := "j", userId := "u", serviceId := "s", action := .cancel, trigger := .scheduled
    status := .dispatched, statusUpdatedAt := since, billingDate := none, accessEndDate := none
    outreachCount := 0, nextOutreachAt := none, amountSats := none, invoiceId := none
    createdAt := ⟨1767139200, 0⟩ }

/-- A job that was dispatched two hours and a minute ago is stuck, unless the limit is too great for
a cutoff. -/
theorem findStuck_dispatched :
    let book : Book := { jobs := [dispatchedRow "2025-12-31T21:59:00.000Z"] }
    let stuck := StuckJob.ofJob ⟨1767225600, 0⟩ (dispatchedJob ⟨1767218340, 0⟩)
    book.findStuck {} ⟨1767225600, 0⟩ = .ok [stuck] ∧ 120 ≤ stuck.minutesStuck ∧
      book.findStuck { dispatched := 4611686018427387903 } ⟨1767225600, 0⟩ = .ok [] := by
  intro book stuck
  obtain ⟨found, without⟩ := findStuck_spec book [dispatchedJob ⟨1767218340, 0⟩] ⟨1767225600, 0⟩
    (by decide) (by decide +kernel)
  obtain ⟨here, first, order, limits, _⟩ := found {} (by decide) (by decide)
    (by
      intro row member
      obtain rfl := List.mem_singleton.mp member
      exact ⟨⟨1767218340, 0⟩, by decide, by decide, by decide +kernel⟩)
    (by decide)
  obtain rfl : here = [stuck] := List.perm_singleton.mp order
  obtain ⟨all, second, rest⟩ := without { dispatched := 4611686018427387903 } {} (by
    intro status
    cases status <;> decide +kernel)
  obtain rfl : [stuck] = all := Except.ok.inj (first.symm.trans second)
  obtain ⟨minutes, limit, least⟩ := limits stuck List.mem_cons_self
  cases limit
  exact ⟨first, least, rest⟩

/-- Times that read back but are not in stored form are compared as they are written: a job that
was dispatched three hours ago, east of Greenwich, is not found. -/
theorem findStuck_overlooks_offset :
    let book : Book := { jobs := [dispatchedRow "2026-01-01T02:00:00.000+05:00"] }
    let job := dispatchedJob ⟨1767214800, 0⟩
    let now : Instant := ⟨1767225600, 0⟩
    book.need .jobs = .ok () ∧ book.jobs.mapM readJob = .ok [job] ∧
      now.Dated ∧ now.nanos < Instant.nanosPerSecond ∧
      job.statusUpdatedAt.Dated ∧ job.statusUpdatedAt.nanos < Instant.nanosPerSecond ∧
      StalenessThresholds.isExceededBy {} now job ∧ job.statusUpdatedAt.minutesUntil now = 180 ∧
      book.findStuck {} now = .ok [] := by
  decide +kernel

end Book

end JobRelay
