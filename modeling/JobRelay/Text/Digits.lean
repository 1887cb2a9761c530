/-! # Decimal digits

Numbers written with ASCII digits: fixed-width fields for dates, bounded scanning of digit runs, and
whole numbers with an optional sign.
-/

namespace JobRelay.Text

def digitValue (c : Char) : Nat :=
  c.toNat - 48

/-- The number that a run of ASCII digits stands for. -/
def ofDigits (digits : List Char) : Nat :=
  digits.foldl (fun n c => 10 * n + digitValue c) 0

def digits (n : Nat) : List Char :=
  Nat.toDigits 10 n

/-- The decimal digits of a number, zeros in front up to the width. -/
def padded (width n : Nat) : List Char :=
  List.replicate (width - (digits n).length) '0' ++ digits n

/-- A run of at least `least` and at most `most` digits at the front, and what follows it. -/
def scanNumber? (least most : Nat) (cs : List Char) : Option (Nat × List Char) :=
  let run := (cs.take most).takeWhile Char.isDigit
  if run.length < least then none else some (ofDigits run, cs.drop run.length)

private theorem ofDigits_digits (n : Nat) : ofDigits (digits n) = n :=
  Nat.ofDigitChars_toDigits (by decide) (by decide)

theorem length_digits_pos (n : Nat) : 0 < (digits n).length :=
  Nat.length_toDigits_pos

theorem isDigit_of_mem_digits {n : Nat} {c : Char} (member : c ∈ digits n) : c.isDigit :=
  Nat.isDigit_of_mem_toDigits (by decide) (by decide) member

/-- More digits behind a number make it at least ten times as great. -/
private theorem mul_ofDigits_le (front : List Char) {back : List Char} (more : back ≠ []) :
    10 * ofDigits front ≤ ofDigits (front ++ back) := by
  have grows (cs : List Char) (n : Nat) :
      n ≤ cs.foldl (fun n c => 10 * n + digitValue c) n := by
    induction cs generalizing n with
    | nil => exact Nat.le_refl n
    | cons c cs ih =>
      have step : n ≤ 10 * n + digitValue c := by omega
      exact Nat.le_trans step (ih _)
  cases back with
  | nil => exact absurd rfl more
  | cons c cs =>
    rw [ofDigits, ofDigits, List.foldl_append, List.foldl_cons]
    exact Nat.le_trans (Nat.le_add_right ..) (grows cs _)

/-- Zeros in front leave a number as it is. -/
private theorem ofDigits_replicate_append (count : Nat) (cs : List Char) :
    ofDigits (List.replicate count '0' ++ cs) = ofDigits cs := by
  induction count with
  | zero => rfl
  | succ count ih => exact ih

theorem ofDigits_padded (width n : Nat) : ofDigits (padded width n) = n := by
  rw [padded, ofDigits_replicate_append, ofDigits_digits]

theorem isDigit_of_mem_padded {width n : Nat} {c : Char} (member : c ∈ padded width n) :
    c.isDigit := by
  rcases List.mem_append.mp member with zero | digit
  · obtain rfl := List.eq_of_mem_replicate zero
    rfl
  · exact isDigit_of_mem_digits digit

theorem takeWhile_padded (width n : Nat) :
    (padded width n).takeWhile Char.isDigit = padded width n := by
  have all : (padded width n ++ []).takeWhile Char.isDigit =
      padded width n ++ [].takeWhile Char.isDigit :=
    List.takeWhile_append_of_pos fun _ => isDigit_of_mem_padded
  simpa using all

/-- Any digits, at least one, as a number. -/
def natural? (cs : List Char) : Option Nat :=
  if !cs.isEmpty && cs.all Char.isDigit then some (ofDigits cs) else none

/-- A whole number with an optional sign, as `i64` fields are written. -/
def integer? (text : String) : Option Int :=
  match text.toList with
  | '-' :: rest => (natural? rest).map fun n => -(n : Int)
  | '+' :: rest => (natural? rest).map Int.ofNat
  | cs => (natural? cs).map Int.ofNat

/-- A text that begins with a digit has no sign. -/
private theorem integer?_of_isDigit {text : String} {c : Char} {cs : List Char}
    (begins : text.toList = c :: cs) (digit : c.isDigit) :
    integer? text = (natural? text.toList).map Int.ofNat := by
  unfold integer?
  split
  · rename_i rest signed
    cases begins.symm.trans signed
    cases digit
  · rename_i rest signed
    cases begins.symm.trans signed
    cases digit
  · rfl

/-- A number that is read where another one is written is that number, or a tenth of it at most,
or ten times it at least. -/
theorem integer?_apart {text : String} {n : Nat} {value : Int} {front back : List Char}
    (same : text.toList ++ front = digits n ++ back) (read : integer? text = some value) :
    text.toList = digits n ∨ 10 * value ≤ n ∨ 10 * (n : Int) ≤ value := by
  obtain ⟨c, cs, begins⟩ := List.exists_cons_of_length_pos (length_digits_pos n)
  have digit : c.isDigit := isDigit_of_mem_digits (begins ▸ List.mem_cons_self)
  obtain ⟨rest, chars⟩ : ∃ rest, text.toList = c :: rest := by
    rw [begins] at same
    cases chars : text.toList with
    | nil => simp [integer?, natural?, chars] at read
    | cons first rest =>
      rw [chars] at same
      exact ⟨rest, by rw [(List.cons.inj same).1]⟩
  rw [integer?_of_isDigit chars digit] at read
  obtain ⟨m, natural, rfl⟩ := Option.map_eq_some_iff.mp read
  obtain rfl : ofDigits text.toList = m := by
    rw [natural?] at natural
    split at natural
    · exact Option.some.inj natural
    · cases natural
  -- One of the two runs of digits begins with the other.
  rcases List.append_eq_append_iff.mp same with ⟨more, longer, _⟩ | ⟨more, longer, _⟩
  · by_cases none : more = []
    · exact .inl (by rw [longer, none, List.append_nil])
    · have tenth := mul_ofDigits_le text.toList none
      rw [← longer, ofDigits_digits] at tenth
      exact .inr (.inl (Int.ofNat_le.mpr tenth))
  · by_cases none : more = []
    · exact .inl (by rw [longer, none, List.append_nil])
    · have tenfold := mul_ofDigits_le (digits n) none
      rw [← longer, ofDigits_digits] at tenfold
      exact .inr (.inr (Int.ofNat_le.mpr tenfold))

/-- A whole number with an optional plus sign, as unsigned fields are written. -/
def unsigned? (text : String) : Option Nat :=
  match text.toList with
  | '+' :: rest => natural? rest
  | cs => natural? cs

def maxInt64 : Int := 9223372036854775807

def minInt64 : Int := -9223372036854775808

def fitsInt64 (n : Int) : Bool :=
  minInt64 ≤ n && n ≤ maxInt64

theorem fitsInt64_iff {n : Int} : fitsInt64 n ↔ minInt64 ≤ n ∧ n ≤ maxInt64 := by
  simp [fitsInt64]

def int64? (text : String) : Option Int :=
  (integer? text).filter fitsInt64

theorem natural?_digits (n : Nat) : natural? (digits n) = some n := by
  have some : (digits n).isEmpty = false := by
    rw [List.isEmpty_eq_false_iff]
    exact List.ne_nil_of_length_pos (length_digits_pos n)
  have all : (digits n).all Char.isDigit := List.all_eq_true.mpr fun _ => isDigit_of_mem_digits
  rw [natural?, some, all, ofDigits_digits]
  rfl

/-- A whole number is read as it is written, with its sign if it is negative. -/
theorem integer?_toString (n : Int) : integer? (toString n) = some n := by
  cases n with
  | ofNat n =>
    have written : (toString (Int.ofNat n)).toList = digits n := String.toList_ofList
    obtain ⟨c, cs, begins⟩ := List.exists_cons_of_length_pos (length_digits_pos n)
    have digit : c.isDigit := isDigit_of_mem_digits (begins ▸ List.mem_cons_self)
    rw [integer?_of_isDigit (written.trans begins) digit, written, natural?_digits]
    rfl
  | negSucc n =>
    have written : (toString (Int.negSucc n)).toList = '-' :: digits (n + 1) := by
      show ("-" ++ String.ofList (digits (n + 1))).toList = _
      rw [String.toList_append, String.toList_ofList, String.toList_ofList]
      rfl
    rw [integer?, written]
    simp only [natural?_digits]
    rfl

theorem int64?_toString {n : Int} (fits : fitsInt64 n) : int64? (toString n) = some n := by
  rw [int64?, integer?_toString, Option.filter_some, if_pos fits]

/-- A whole number that fits an unsigned field of the given number of bits. -/
def unsignedBits? (bits : Nat) (text : String) : Option Nat :=
  (unsigned? text).filter (· < Nat.pow 2 bits)

end JobRelay.Text
