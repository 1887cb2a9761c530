import JobRelay.Book.Amount
import Mathlib.Algebra.Group.Nat.Defs
import Mathlib.Tactic.SplitIfs
import Mathlib.Tactic.WLOG

/-! # Sums beyond the range

A sum of amounts that fits is exact. One that does not is rounded, and its summands are rounded
before it; still it never comes back into the range, so that whether a stored sum fits tells whether
the exact one does.
-/

namespace JobRelay.Amount

open Text

/-- A quotient is rounded down to the half and up from the half, and at the half to an even one. -/
private theorem divideToEven_cases (n d : Nat) :
    (divideToEven n d = n / d ∧ 2 * (n % d) ≤ d ∧ (2 * (n % d) = d → n / d % 2 = 0)) ∨
      (divideToEven n d = n / d + 1 ∧ d ≤ 2 * (n % d)) := by
  unfold divideToEven
  simp only
  split_ifs <;> omega

private theorem div_le_divideToEven (n d : Nat) : n / d ≤ divideToEven n d := by
  rcases divideToEven_cases n d with ⟨down, _⟩ | ⟨up, _⟩ <;> omega

/-- Rounding takes away less than the unit of the last significant bit. -/
private theorem div_mul_le_roundNat (n : Nat) :
    n / 2 ^ (n.log2 - 52) * 2 ^ (n.log2 - 52) ≤ roundNat n :=
  Nat.mul_le_mul_right _ (div_le_divideToEven _ _)

/-- What is at least a power of two with room for all its bits is not rounded below it. -/
private theorem two_pow_le_roundNat {n k : Nat} (wide : 52 ≤ k) (le : 2 ^ k ≤ n) :
    2 ^ k ≤ roundNat n := by
  have nonzero : n ≠ 0 := by
    have positive := Nat.two_pow_pos k
    omega
  have least : k ≤ n.log2 := (Nat.le_log2 nonzero).mpr le
  have split : 2 ^ n.log2 = 2 ^ 52 * 2 ^ (n.log2 - 52) := by
    rw [← Nat.pow_add]
    congr 1
    omega
  have quotient : 2 ^ 52 ≤ n / 2 ^ (n.log2 - 52) := by
    rw [Nat.le_div_iff_mul_le (Nat.two_pow_pos _), ← split]
    exact Nat.log2_self_le nonzero
  calc
    2 ^ k
    _ ≤ 2 ^ n.log2 := Nat.pow_le_pow_right (by decide) least
    _ = 2 ^ 52 * 2 ^ (n.log2 - 52) := split
    _ ≤ n / 2 ^ (n.log2 - 52) * 2 ^ (n.log2 - 52) := Nat.mul_le_mul_right _ quotient
    _ ≤ roundNat n := div_mul_le_roundNat n

/-- Below half the range a number is rounded to multiples of 512 or finer. -/
private theorem floor_512_le_roundNat {n : Nat} (below : n < 2 ^ 62) :
    n / 512 * 512 ≤ roundNat n := by
  have fine : n.log2 - 52 ≤ 9 := by
    by_cases zero : n = 0
    · subst zero
      decide
    · have few := (Nat.log2_lt zero).mpr below
      omega
  have units : n / 512 * 2 ^ (9 - (n.log2 - 52)) * 2 ^ (n.log2 - 52) = n / 512 * 512 := by
    rw [Nat.mul_assoc, ← Nat.pow_add, Nat.sub_add_cancel fine]
  -- A floor to a multiple of a coarser unit is below the one to a finer unit.
  have finer : n / 512 * 2 ^ (9 - (n.log2 - 52)) ≤ n / 2 ^ (n.log2 - 52) := by
    rw [Nat.le_div_iff_mul_le (Nat.two_pow_pos _), units]
    exact Nat.div_mul_le_self n 512
  calc
    n / 512 * 512
    _ = n / 512 * 2 ^ (9 - (n.log2 - 52)) * 2 ^ (n.log2 - 52) := units.symm
    _ ≤ n / 2 ^ (n.log2 - 52) * 2 ^ (n.log2 - 52) := Nat.mul_le_mul_right _ finer
    _ ≤ roundNat n := div_mul_le_roundNat n

/-- In the upper half of the range a number is rounded to multiples of 1024. -/
theorem roundNat_of_upperHalf {n : Nat} (least : 2 ^ 62 ≤ n) (below : n < 2 ^ 63) :
    roundNat n = divideToEven n 1024 * 1024 := by
  have nonzero : n ≠ 0 := by omega
  have low := (Nat.le_log2 nonzero).mpr least
  have high := (Nat.log2_lt nonzero).mpr below
  have bits : n.log2 = 62 := by omega
  rw [roundNat, bits]

/-- A number that is half a unit short of the end of the range is rounded out of it. -/
theorem end_le_roundNat {n : Nat} (near : 2 ^ 63 - 512 ≤ n) : 2 ^ 63 ≤ roundNat n := by
  by_cases beyond : 2 ^ 63 ≤ n
  · exact two_pow_le_roundNat (by decide) beyond
  · rw [roundNat_of_upperHalf (by omega) (by omega)]
    rcases divideToEven_cases n 1024 with ⟨down, _, tie⟩ | ⟨up, _⟩ <;> omega

/-- Two numbers that together leave the range come within half a unit of its end once they are
rounded. -/
private theorem end_le_add_roundNat {n m : Nat} (beyond : 2 ^ 63 ≤ n + m) :
    2 ^ 63 - 512 ≤ roundNat n + roundNat m := by
  wlog larger : m ≤ n generalizing n m
  · have swapped := this (n := m) (m := n) (by omega) (by omega)
    omega
  have upper : 2 ^ 62 ≤ n := by omega
  by_cases outside : 2 ^ 63 ≤ n
  · have kept := two_pow_le_roundNat (by decide) outside
    omega
  · by_cases both : 2 ^ 62 ≤ m
    · have first := two_pow_le_roundNat (by decide) upper
      have second := two_pow_le_roundNat (by decide) both
      omega
    · have floor := floor_512_le_roundNat (Nat.not_le.mp both)
      rw [roundNat_of_upperHalf upper (Nat.not_le.mp outside)]
      rcases divideToEven_cases n 1024 with ⟨down, less, _⟩ | ⟨up, more⟩ <;> omega

private theorem round_of_nonneg {a : Int} (nonneg : 0 ≤ a) : round a = roundNat a.toNat := by
  rw [round, if_neg (Int.not_lt.mpr nonneg)]
  congr 2
  omega

theorem add_nonneg {a b : Int} (ha : 0 ≤ a) (hb : 0 ≤ b) : 0 ≤ add a b := by
  unfold add
  split
  · exact Int.add_nonneg ha hb
  · have sum : 0 ≤ round a + round b := by
      rw [round_of_nonneg ha, round_of_nonneg hb]
      exact Int.add_nonneg (Int.natCast_nonneg _) (Int.natCast_nonneg _)
    rw [round_of_nonneg sum]
    exact Int.natCast_nonneg _

/-- A stored sum fits only if the exact one does. -/
theorem maxInt64_lt_add {a b : Int} (ha : 0 ≤ a) (hb : 0 ≤ b) (beyond : maxInt64 < a + b) :
    maxInt64 < add a b := by
  have exceeds : fitsInt64 (a + b) = false := by
    rw [Bool.eq_false_iff, ne_eq, fitsInt64_iff]
    omega
  have sum := end_le_add_roundNat (n := a.toNat) (m := b.toNat) (by unfold maxInt64 at beyond; omega)
  have rounded := end_le_roundNat sum
  have toNat : ((roundNat a.toNat : Int) + (roundNat b.toNat : Int)).toNat =
      roundNat a.toNat + roundNat b.toNat := by omega
  rw [add, exceeds, Bool.and_false, if_neg Bool.false_ne_true, round_of_nonneg ha,
    round_of_nonneg hb, round_of_nonneg (by omega), toNat]
  unfold maxInt64
  omega

end JobRelay.Amount
