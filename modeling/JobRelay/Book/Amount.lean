import JobRelay.Text.Digits

/-! # Stored amounts

Amounts are signed 64-bit integers. A sum that does not fit is kept as the nearest number with
fifty-three significant bits, and so is every sum that such a number goes into.
-/

namespace JobRelay.Amount

open Text

/-- A half of `2 * d` rounded to a whole number, a tie to the even neighbour. -/
def divideToEven (n d : Nat) : Nat :=
  let quotient := n / d
  let remainder := n % d
  if 2 * remainder < d then quotient
  else if d < 2 * remainder then quotient + 1
  else if quotient % 2 = 0 then quotient else quotient + 1

/-- The nearest natural number with at most fifty-three significant bits. -/
def roundNat (n : Nat) : Nat :=
  let excess := Nat.log2 n - 52
  divideToEven n (Nat.pow 2 excess) * Nat.pow 2 excess

/-- The nearest number with at most fifty-three significant bits. -/
def round (n : Int) : Int :=
  if n < 0 then -(roundNat n.natAbs : Int) else roundNat n.natAbs

/-- The stored sum of two amounts. -/
def add (a b : Int) : Int :=
  if fitsInt64 a && fitsInt64 b && fitsInt64 (a + b) then a + b else round (round a + round b)

/-- Sums that fit are exact. -/
theorem add_eq (a b : Int) (ha : fitsInt64 a) (hb : fitsInt64 b) (h : fitsInt64 (a + b)) :
    add a b = a + b := by
  simp [add, ha, hb, h]

/-- The exact sum of some amounts. -/
def total : List Int → Int
  | [] => 0
  | a :: rest => a + total rest

theorem total_append (xs ys : List Int) : total (xs ++ ys) = total xs + total ys := by
  induction xs with
  | nil => simp [total]
  | cons a rest ih => simp [total, ih, Int.add_assoc]

/-- The stored amount less another, but not below zero. -/
def lower (a b : Int) : Int :=
  max (add a (-b)) 0

theorem lower_nonneg (a b : Int) : 0 ≤ lower a b := Int.le_max_right ..

end JobRelay.Amount
