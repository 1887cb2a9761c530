import JobRelay.Proofs.Calendar.Order
import Mathlib.Data.List.TakeWhile

/-! # Times that clocks show

A clock shows seconds and fractions of a second, and a leap second as the second 60 of the minute
that it ends. Every text that is read stands for such a time: offsets from UTC are whole minutes, so
a leap second ends its minute in UTC too, wherever its text was written.
-/

namespace JobRelay

private theorem Text.ofDigits_lt_pow (run : List Char) (digits : ∀ c ∈ run, c.isDigit) :
    ofDigits run < 10 ^ run.length := by
  induction run using List.reverseRecOn with
  | nil => decide
  | append_singleton run c ih =>
    obtain ⟨_, last⟩ := digitValue_lt_iff (digits c (by simp)) (digits c (by simp))
    have front := ih fun d member => digits d (List.mem_append_left _ member)
    rw [ofDigits_concat, List.length_append, List.length_singleton, Nat.pow_succ]
    omega

namespace Instant

open Text

variable {t : Instant}

/-- The fraction is below a second, or it is that of a leap second, which ends its minute. -/
def OnClock (t : Instant) : Prop :=
  t.nanos < nanosPerSecond ∨ t.nanos < 2 * nanosPerSecond ∧ t.seconds % 60 = 59

instance : Decidable t.OnClock :=
  inferInstanceAs (Decidable (_ ∨ _))

/-- The dated instants are the times of the years with four digits. -/
theorem dated_iff : t.Dated ↔ t.OnClock ∧ 0 ≤ t.date.year ∧ t.date.year ≤ 9999 := by
  constructor
  · intro dated
    exact ⟨dated.leap, dated.year⟩
  · rintro ⟨shown, first, last⟩
    refine ⟨?_, ?_, shown⟩
    · by_contra early
      have before : t.date.year < 0 := Date.year_ofDays_neg (by omega)
      omega
    · by_contra late
      have after : 9999 < t.date.year := Date.year_ofDays_late (by omega)
      omega

/-! ## What is read -/

private theorem scanFraction?_lt {cs rest : List Char} {nanos : Nat}
    (h : scanFraction? cs = some (nanos, rest)) : nanos < nanosPerSecond := by
  rw [scanFraction?] at h
  obtain ⟨run, here⟩ : ∃ run, run = (cs.take 9).takeWhile Char.isDigit := ⟨_, rfl⟩
  have short : run.length ≤ 9 := by
    rw [here]
    exact (List.takeWhile_sublist _).length_le.trans (List.length_take_le _ _)
  have digits : ∀ c ∈ run, c.isDigit := fun _ member => List.mem_takeWhile_imp (here ▸ member)
  simp only [← here] at h
  split at h
  · cases h
  · cases h
    calc
      ofDigits run * 10 ^ (9 - run.length) < 10 ^ run.length * 10 ^ (9 - run.length) :=
        Nat.mul_lt_mul_of_pos_right (ofDigits_lt_pow run digits) (Nat.pow_pos (by decide))
      _ = 10 ^ 9 := by rw [← Nat.pow_add, Nat.add_sub_cancel' short]

private theorem scanOptionalFraction?_lt {cs rest : List Char} {nanos : Nat}
    (h : scanOptionalFraction? cs = some (nanos, rest)) : nanos < nanosPerSecond := by
  unfold scanOptionalFraction? at h
  split at h
  · exact scanFraction?_lt h
  · cases h
    decide

/-- An offset is a number of whole minutes. -/
private theorem scanOffset?_whole {separator : List Char → Option (List Char)} {cs rest : List Char}
    {offset : Int} (h : scanOffset? separator cs = some (offset, rest)) : offset % 60 = 0 := by
  unfold scanOffset? at h
  split at h
  · cases h
    rfl
  · cases h
    rfl
  case h_6 => cases h
  all_goals
    simp only [Option.bind_eq_bind, Option.bind_eq_some_iff, Option.ite_none_right_eq_some,
      Option.some.injEq, Prod.mk.injEq] at h
    obtain ⟨⟨hours, _⟩, _, _, _, ⟨minutes, _⟩, _, _, rfl, _⟩ := h
    omega

private theorem onClock_of_ofParts? {date : Date} {hour minute second nanos : Nat} {offset : Int}
    (fraction : nanos < nanosPerSecond) (whole : offset % 60 = 0)
    (h : ofParts? date hour minute second nanos offset = some t) : t.OnClock := by
  unfold ofParts? at h
  split at h
  case isFalse => cases h
  by_cases leap : second = 60
  · rw [if_pos leap] at h
    obtain ⟨_, h⟩ := Option.ite_none_right_eq_some.mp h
    cases h
    -- It is kept on second 59, and whole minutes of offset leave it at the end of its minute.
    right
    unfold nanosPerSecond at fraction ⊢
    simp only
    omega
  · rw [if_neg leap] at h
    obtain ⟨_, h⟩ := Option.ite_none_right_eq_some.mp h
    cases h
    exact .inl fraction

/-- What a text stands for is a time that a clock shows. -/
theorem onClock_of_read? {text : String} (h : read? text = some t) : t.OnClock := by
  unfold read? at h
  obtain ⟨⟨year, cs⟩, _, h⟩ := Option.bind_eq_some_iff.mp h
  obtain ⟨cs, _, h⟩ := Option.bind_eq_some_iff.mp h
  obtain ⟨⟨month, cs⟩, _, h⟩ := Option.bind_eq_some_iff.mp h
  obtain ⟨cs, _, h⟩ := Option.bind_eq_some_iff.mp h
  obtain ⟨⟨day, cs⟩, _, h⟩ := Option.bind_eq_some_iff.mp h
  obtain ⟨cs, _, h⟩ := Option.bind_eq_some_iff.mp h
  obtain ⟨⟨hour, cs⟩, _, h⟩ := Option.bind_eq_some_iff.mp h
  obtain ⟨cs, _, h⟩ := Option.bind_eq_some_iff.mp h
  obtain ⟨⟨minute, cs⟩, _, h⟩ := Option.bind_eq_some_iff.mp h
  obtain ⟨cs, _, h⟩ := Option.bind_eq_some_iff.mp h
  obtain ⟨⟨second, cs⟩, _, h⟩ := Option.bind_eq_some_iff.mp h
  obtain ⟨⟨nanos, cs⟩, fraction, h⟩ := Option.bind_eq_some_iff.mp h
  obtain ⟨⟨offset, cs⟩, zone, h⟩ := Option.bind_eq_some_iff.mp h
  obtain ⟨_, h⟩ := Option.ite_none_right_eq_some.mp h
  obtain ⟨date, _, h⟩ := Option.bind_eq_some_iff.mp h
  exact onClock_of_ofParts? (scanOptionalFraction?_lt fraction) (scanOffset?_whole zone) h

end Instant

end JobRelay
