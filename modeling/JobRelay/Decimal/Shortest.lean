import JobRelay.Text.Digits

/-! # Shortest decimals of binary fractions

A double is `m · 2 ^ q`. All reals between the midpoints to its two neighbours read back as it, the
midpoints themselves only when `m` is even. The shortest decimal is found by trying grids of one,
two, … seventeen significant digits: the first grid with a point in that interval wins, and of two
such points the nearer one.
-/

namespace JobRelay.Decimal

/-- The decoded form of the sixty-four bits of a double. -/
inductive Double where
  | notANumber
  | infinite (negative : Bool)
  | finite (negative : Bool) (m : Nat) (q : Int)
deriving DecidableEq, Repr

/-- Reads sign, exponent and significand. -/
def Double.ofBits (bits : UInt64) : Double :=
  let n : Nat := bits.toNat
  let negative := n / Nat.pow 2 63 == 1
  let exponent : Nat := n / Nat.pow 2 52 % 2048
  let fraction : Nat := n % Nat.pow 2 52
  if exponent = 2047 then
    if fraction = 0 then .infinite negative else .notANumber
  else if exponent = 0 then .finite negative fraction (-1074)
  else .finite negative (fraction + Nat.pow 2 52) ((exponent : Int) - 1075)

/-- Digits and the place of the point: the value is `0.d₁d₂… · 10 ^ point`. -/
structure Digits where
  digits : List Char
  point : Int
deriving DecidableEq, Repr

/-- The reals that read back as one double, over a common denominator. -/
structure Interval where
  low : Nat
  value : Nat
  high : Nat
  denominator : Nat
  closed : Bool

/-- The interval of a positive double. Below a power of two the neighbour is twice as near. -/
def Interval.of (m : Nat) (q : Int) : Interval :=
  let gapBelow := if m = Nat.pow 2 52 ∧ -1074 < q then 1 else 2
  let scale := Nat.pow 2 (q - 2).toNat
  ⟨(4 * m - gapBelow) * scale, 4 * m * scale, (4 * m + 2) * scale, Nat.pow 2 (2 - q).toNat,
    m % 2 == 0⟩

/-- Whether `n · unitNum / unitDen` lies in the interval. -/
def Interval.holds (i : Interval) (n unitNum unitDen : Nat) : Bool :=
  let x := n * unitNum * i.denominator
  let low := i.low * unitDen
  let high := i.high * unitDen
  (low < x && x < high) || (i.closed && (x == low || x == high))

/-- The number of places before the point of `num / den`, at most zero below one tenth. -/
def pointPlace (num den : Nat) : Nat → Int
  | 0 => 0
  | fuel + 1 =>
    if den ≤ num then (Text.digits (num / den)).length
    else if den ≤ 10 * num then 0
    else pointPlace (10 * num) den fuel - 1

/-- The point of the grid with `count` significant digits that stands for the double, if any. -/
def onGrid (i : Interval) (point : Int) (count : Nat) : Option Nat :=
  let unit := point - count
  let unitNum := Nat.pow 10 unit.toNat
  let unitDen := Nat.pow 10 (-unit).toNat
  let below := i.value * unitDen / (unitNum * i.denominator)
  let remainder := i.value * unitDen % (unitNum * i.denominator)
  let nearerBelow := 2 * remainder < unitNum * i.denominator ||
    (2 * remainder == unitNum * i.denominator && below % 2 == 0)
  match i.holds below unitNum unitDen, i.holds (below + 1) unitNum unitDen with
  | true, true => some (if nearerBelow then below else below + 1)
  | true, false => some below
  | false, true => some (below + 1)
  | false, false => none

/-- The first grid with a hit. -/
def search (i : Interval) (point : Int) : List Nat → Digits
  | [] => ⟨[], point⟩
  | count :: rest =>
    match onGrid i point count with
    | some n =>
      let ds := Text.digits n
      ⟨ds, point - count + ds.length⟩
    | none => search i point rest

/-- The shortest digits of a positive double. -/
def shortest (m : Nat) (q : Int) : Digits :=
  let i := Interval.of m q
  search i (pointPlace i.value i.denominator 400) ((List.range 17).map (· + 1))

/-- Zeros at the end carry nothing. -/
def dropZeros (ds : List Char) : List Char :=
  (ds.reverse.dropWhile (· == '0')).reverse

/-- Digits without an exponent. -/
def positional (d : Digits) : List Char :=
  let ds := dropZeros d.digits
  if d.point ≤ 0 then '0' :: '.' :: List.replicate (-d.point).toNat '0' ++ ds
  else if ds.length ≤ d.point.toNat then ds ++ List.replicate (d.point.toNat - ds.length) '0'
  else ds.take d.point.toNat ++ '.' :: ds.drop d.point.toNat

/-- The text of a double without an exponent: `0.9`, `-0`, `NaN`, `inf`. -/
def format (bits : UInt64) : String :=
  match Double.ofBits bits with
  | .notANumber => "NaN"
  | .infinite negative => if negative then "-inf" else "inf"
  | .finite negative m q =>
    let body := if m = 0 then ['0'] else positional (shortest m q)
    String.ofList (if negative then '-' :: body else body)

end JobRelay.Decimal
