import JobRelay.Service.Supervisor
import Mathlib.Algebra.Group.Nat.Defs

/-! # Pauses in closed form

A supervisor keeps two numbers between runs: the pause, which doubles up to a limit and which a
finished run sets back, and the count of ended runs, which nothing sets back. So a pause is told
from the distance to the last run that finished, and the number of runs from the restarts alone.
-/

namespace JobRelay.RestartPolicy

variable {p : RestartPolicy}

/-- The first pause, doubled so many times and cut off at the longest one. -/
def pauseAfter (p : RestartPolicy) (doublings : Nat) : Nat :=
  min (p.firstPause * 2 ^ doublings) p.longestPause

/-- Pauses that can be waited. -/
structure Waitable (p : RestartPolicy) : Prop where
  initialPause : p.initialPause ≤ pauseLimit
  maxPause : p.maxPause ≤ pauseLimit

private theorem firstPause_pos (p : RestartPolicy) : 1 ≤ p.firstPause := Nat.le_max_right ..

private theorem firstPause_le_longestPause (p : RestartPolicy) : p.firstPause ≤ p.longestPause :=
  Nat.le_max_right ..

private theorem Waitable.longestPause (waitable : p.Waitable) : p.longestPause ≤ pauseLimit := by
  obtain ⟨first, longest⟩ := waitable
  simp only [RestartPolicy.longestPause, firstPause, pauseLimit] at first longest ⊢
  omega

private theorem pauseAfter_zero (p : RestartPolicy) : p.pauseAfter 0 = p.firstPause := by
  rw [pauseAfter, Nat.pow_zero, Nat.mul_one]
  exact Nat.min_eq_left p.firstPause_le_longestPause

private theorem pauseAfter_bounds (p : RestartPolicy) (doublings : Nat) :
    1 ≤ p.pauseAfter doublings ∧ p.pauseAfter doublings ≤ p.longestPause := by
  have least : p.firstPause ≤ p.firstPause * 2 ^ doublings :=
    Nat.le_mul_of_pos_right _ (Nat.two_pow_pos _)
  have positive := p.firstPause_pos
  have longest := p.firstPause_le_longestPause
  rw [pauseAfter]
  omega

/-- The limit of what can be waited never shows, since no pause is longer than the longest one. -/
private theorem lengthen_pauseAfter (waitable : p.Waitable) (doublings : Nat) :
    p.lengthen (p.pauseAfter doublings) = p.pauseAfter (doublings + 1) := by
  have limit := waitable.longestPause
  rw [lengthen, pauseAfter, pauseAfter, Nat.pow_succ, ← Nat.mul_assoc]
  omega

/-! ## One run -/

/-- How often the first pause is doubled for the pause after a run, when it would be so many times
if the run failed. -/
def doublings : RunEnd → Nat → Nat
  | .finished, _ => 0
  | .failed, count => count

/-- A run is followed by a pause until as many runs have ended as there are restarts. -/
theorem afterRun_pauseAfter (waitable : p.Waitable) (counted : p.maxRestarts < countLimit)
    (count ended : Nat) (how : RunEnd) :
    p.afterRun { pause := p.pauseAfter count, ended } how =
      if 0 < p.maxRestarts ∧ p.maxRestarts ≤ ended then none
      else some (p.pauseAfter (doublings how count),
        { pause := p.pauseAfter (doublings how count + 1), ended := min (ended + 1) countLimit }) := by
  have reached : p.maxRestarts < min (ended + 1) countLimit ↔ p.maxRestarts ≤ ended := by omega
  cases how with
  | finished =>
    simp only [afterRun, doublings, reached, ← p.pauseAfter_zero, lengthen_pauseAfter waitable]
  | failed => simp only [afterRun, doublings, reached, lengthen_pauseAfter waitable]

/-! ## Runs one after the other -/

/-- How often the first pause is doubled for the pause after each run. -/
def doublingsFrom (count : Nat) : List RunEnd → List Nat
  | [] => []
  | how :: later => doublings how count :: doublingsFrom (doublings how count + 1) later

@[simp] private theorem length_doublingsFrom (count : Nat) (ends : List RunEnd) :
    (doublingsFrom count ends).length = ends.length := by
  induction ends generalizing count with
  | nil => rfl
  | cons how later ih => simp [doublingsFrom, ih]

/-- After runs that all failed the pause has doubled once for each of them. -/
private theorem doublingsFrom_of_failed {count : Nat} {ends : List RunEnd} {i : Nat}
    (failed : ∀ l ≤ i, ends[l]? = some .failed) :
    (doublingsFrom count ends)[i]? = some (count + i) := by
  induction ends generalizing count i with
  | nil => simpa using failed i (Nat.le_refl i)
  | cons how later ih =>
    obtain rfl : how = .failed := by simpa using failed 0 (Nat.zero_le i)
    cases i with
    | zero => rfl
    | succ i =>
      have rest := @ih (count + 1) i fun l le => failed (l + 1) (Nat.succ_le_succ le)
      rw [doublingsFrom, List.getElem?_cons_succ, doublings, rest]
      congr 1
      omega

/-- The last run that finished is the one to count from. -/
private theorem doublingsFrom_of_finished {count : Nat} {ends : List RunEnd} {i j : Nat}
    (le : j ≤ i) (finished : ends[j]? = some .finished)
    (failed : ∀ l, j < l → l ≤ i → ends[l]? = some .failed) :
    (doublingsFrom count ends)[i]? = some (i - j) := by
  induction ends generalizing count i j with
  | nil => cases finished
  | cons how later ih =>
    cases j with
    | zero =>
      obtain rfl : how = .finished := by simpa using finished
      cases i with
      | zero => rfl
      | succ i =>
        have rest := @doublingsFrom_of_failed 1 later i fun l le =>
          failed (l + 1) (Nat.succ_pos l) (Nat.succ_le_succ le)
        rw [doublingsFrom, List.getElem?_cons_succ, doublings, rest]
        congr 1
        omega
    | succ j =>
      cases i with
      | zero => exact absurd le (Nat.not_succ_le_zero j)
      | succ i =>
        rw [doublingsFrom, List.getElem?_cons_succ, Nat.add_sub_add_right]
        exact ih (Nat.le_of_succ_le_succ le) finished fun l less most =>
          failed (l + 1) (Nat.succ_lt_succ less) (Nat.succ_le_succ most)

/-- How many of the runs that end in these ways are followed by a pause, when so many have ended
before. -/
def restartsLeft (p : RestartPolicy) (ended : Nat) (ends : List RunEnd) : Nat :=
  if p.maxRestarts = 0 then ends.length else p.maxRestarts - ended

/-- The pauses are the doubled ones for as long as there are restarts left. -/
theorem pausesFrom_eq (waitable : p.Waitable) (counted : p.maxRestarts < countLimit)
    {count ended : Nat} (within : p.maxRestarts = 0 ∨ ended ≤ p.maxRestarts)
    (ends : List RunEnd) :
    p.pausesFrom { pause := p.pauseAfter count, ended } ends =
      (((doublingsFrom count ends).take (p.restartsLeft ended ends)).map p.pauseAfter,
        decide (p.restartsLeft ended ends < ends.length)) := by
  induction ends generalizing count ended with
  | nil => simp [pausesFrom, doublingsFrom]
  | cons how later ih =>
    rw [pausesFrom, afterRun_pauseAfter waitable counted]
    by_cases spent : 0 < p.maxRestarts ∧ p.maxRestarts ≤ ended
    · have none : p.restartsLeft ended (how :: later) = 0 := by
        rw [restartsLeft, if_neg (by omega)]
        omega
      simp [spent, none]
    · have next : p.maxRestarts = 0 ∨ min (ended + 1) countLimit ≤ p.maxRestarts := by omega
      have fewer : p.restartsLeft ended (how :: later) =
          p.restartsLeft (min (ended + 1) countLimit) later + 1 := by
        simp only [restartsLeft, List.length_cons]
        split <;> omega
      rw [if_neg spent]
      simp only [ih next, fewer, doublingsFrom, List.take_succ_cons, List.map_cons,
        List.length_cons, Nat.add_lt_add_iff_right]

private theorem pauses_eq (waitable : p.Waitable) (counted : p.maxRestarts < countLimit)
    (ends : List RunEnd) :
    p.pauses ends =
      (((doublingsFrom 0 ends).take (p.restartsLeft 0 ends)).map p.pauseAfter,
        decide (p.restartsLeft 0 ends < ends.length)) := by
  rw [pauses, start, ← p.pauseAfter_zero]
  exact pausesFrom_eq waitable counted (.inr (Nat.zero_le _)) ends

private theorem length_startsFrom (time : Nat) (pauses : List Nat) :
    (startsFrom time pauses).length = pauses.length + 1 := by
  induction pauses generalizing time with
  | nil => rfl
  | cons pause pauses ih => rw [startsFrom, List.length_cons, ih, List.length_cons]

/-! ## The schedule -/

/-- What is promised of a component whose runs, counted from zero, end in these ways. -/
structure Scheduled (p : RestartPolicy) (ends : List RunEnd) : Prop where
  /-- With a number of restarts there is one run more than that, and without one there is always
  another run. -/
  runs : (p.starts ends).1.length =
    if p.maxRestarts = 0 then ends.length + 1 else min ends.length p.maxRestarts + 1
  /-- Every run is followed by a pause but the last one of a component that is given up. -/
  pauses : (p.pauses ends).1.length =
    if p.maxRestarts = 0 then ends.length else min ends.length p.maxRestarts
  givenUp : (p.pauses ends).2 ↔ 0 < p.maxRestarts ∧ p.maxRestarts < ends.length
  /-- After a run that finished, the pause starts over and doubles with every later run. -/
  sinceFinished : ∀ i j pause, (p.pauses ends).1[i]? = some pause → j ≤ i →
    ends[j]? = some .finished → (∀ l, j < l → l ≤ i → ends[l]? = some .failed) →
    pause = min (p.firstPause * 2 ^ (i - j)) p.longestPause
  /-- Until a run has finished, the pause doubles with every run after the first one. -/
  sinceStart : ∀ i pause, (p.pauses ends).1[i]? = some pause →
    (∀ l ≤ i, ends[l]? = some .failed) → pause = min (p.firstPause * 2 ^ i) p.longestPause
  bounded : ∀ pause ∈ (p.pauses ends).1, 1 ≤ pause ∧ pause ≤ p.longestPause

/-- A component is kept up as scheduled, whatever its pauses are and however its runs end, if its
restarts stay below what is counted. -/
theorem scheduled_pauses (p : RestartPolicy) (waitable : p.Waitable)
    (counted : p.maxRestarts < countLimit) (ends : List RunEnd) : p.Scheduled ends := by
  have closed := pauses_eq waitable counted ends
  -- Where a pause is listed, it is the one for the doublings listed in its place.
  have listed {i pause : Nat} (slept : (p.pauses ends).1[i]? = some pause) {count : Nat}
      (doubled : (doublingsFrom 0 ends)[i]? = some count) : pause = p.pauseAfter count := by
    rw [closed, List.getElem?_map, List.getElem?_take] at slept
    split at slept
    · rw [doubled] at slept
      exact (Option.some.inj slept).symm
    · cases slept
  have length : (p.pauses ends).1.length =
      if p.maxRestarts = 0 then ends.length else min ends.length p.maxRestarts := by
    rw [closed, List.length_map, List.length_take, length_doublingsFrom, restartsLeft]
    split <;> omega
  refine ⟨?_, length, ?_, ?_, ?_, ?_⟩
  · rw [show (p.starts ends).1 = startsFrom 0 (p.pauses ends).1 from rfl, length_startsFrom, length]
    split <;> rfl
  · rw [closed, decide_eq_true_iff, restartsLeft]
    split <;> omega
  · intro i j pause slept le finished failed
    exact listed slept (doublingsFrom_of_finished le finished failed)
  · intro i pause slept failed
    have doubled := listed slept (doublingsFrom_of_failed failed)
    rwa [Nat.zero_add] at doubled
  · rw [closed]
    intro pause member
    obtain ⟨count, _, rfl⟩ := List.mem_map.mp member
    exact p.pauseAfter_bounds count

/-- Pauses that reach the limit of what can be waited after one doubling. -/
def steepPolicy : RestartPolicy :=
  { initialPause := 9223372036854775808, maxPause := pauseLimit, maxRestarts := 4 }

theorem scheduled_steepPolicy :
    steepPolicy.Scheduled [.failed, .failed, .finished, .failed, .failed] ∧
      steepPolicy.pauses [.failed, .failed, .finished, .failed, .failed] =
        ([9223372036854775808, 18446744073709551615, 9223372036854775808, 18446744073709551615],
          true) :=
  ⟨scheduled_pauses steepPolicy ⟨by decide, by decide⟩ (by decide) _, by decide⟩

end JobRelay.RestartPolicy
