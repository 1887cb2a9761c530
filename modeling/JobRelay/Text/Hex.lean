/-! # Hexadecimal text

Bytes are written as two lower-case digits each and read in either letter case.
-/

namespace JobRelay.Text.Hex

/-- The lower-case digit of a number below sixteen. -/
def digit (n : UInt8) : Char :=
  if n < 10 then Char.ofNat (48 + n.toNat) else Char.ofNat (87 + n.toNat)

/-- The value of a digit in either case. -/
def value? (c : Char) : Option UInt8 :=
  let n := c.toNat
  if 48 ≤ n ∧ n ≤ 57 then some (n - 48).toUInt8
  else if 97 ≤ n ∧ n ≤ 102 then some (n - 87).toUInt8
  else if 65 ≤ n ∧ n ≤ 70 then some (n - 55).toUInt8
  else none

/-- Two digits for each byte. -/
def encodeChars (bytes : List UInt8) : List Char :=
  bytes.flatMap fun b => [digit (b / 16), digit (b % 16)]

def encode (bytes : List UInt8) : String :=
  String.ofList (encodeChars bytes)

/-- The bytes written by an even number of hexadecimal digits. -/
def decode? : List Char → Option (List UInt8)
  | [] => some []
  | [_] => none
  | high :: low :: rest =>
    match value? high, value? low, decode? rest with
    | some h, some l, some bytes => some ((16 * h + l) :: bytes)
    | _, _, _ => none

@[simp] theorem length_encodeChars (bytes : List UInt8) :
    (encodeChars bytes).length = 2 * bytes.length := by
  induction bytes with
  | nil => rfl
  | cons b bytes ih => simp only [encodeChars, List.flatMap_cons] at ih ⊢; simp [ih]; omega

theorem value?_digit {n : UInt8} (small : n < 16) : value? (digit n) = some n := by
  have all : ∀ m < 16, value? (digit (UInt8.ofNat m)) = some (UInt8.ofNat m) := by decide
  have same := all n.toNat (UInt8.lt_iff_toNat_lt.mp small)
  rwa [UInt8.ofNat_toNat] at same

private theorem bounds_of_digit {n : UInt8} (small : n < 16) :
    48 ≤ (digit n).toNat ∧ (digit n).toNat ≤ 102 := by
  have all : ∀ m < 16, 48 ≤ (digit (UInt8.ofNat m)).toNat ∧ (digit (UInt8.ofNat m)).toNat ≤ 102 := by
    decide
  have bounds := all n.toNat (UInt8.lt_iff_toNat_lt.mp small)
  rwa [UInt8.ofNat_toNat] at bounds

private theorem high_lt (b : UInt8) : b / 16 < 16 := by
  rw [UInt8.lt_iff_toNat_lt, UInt8.toNat_div]
  have byte := b.toNat_lt
  show b.toNat / 16 < 16
  omega

private theorem low_lt (b : UInt8) : b % 16 < 16 := by
  rw [UInt8.lt_iff_toNat_lt, UInt8.toNat_mod]
  exact Nat.mod_lt _ (by decide)

theorem exists_of_mem_encodeChars {bytes : List UInt8} {c : Char}
    (member : c ∈ encodeChars bytes) : ∃ n < 16, c = digit n := by
  obtain ⟨b, _, half⟩ := List.mem_flatMap.mp member
  simp only [List.mem_cons, List.not_mem_nil, or_false] at half
  rcases half with rfl | rfl
  · exact ⟨_, high_lt b, rfl⟩
  · exact ⟨_, low_lt b, rfl⟩

/-- Digits are neither blank nor invisible. -/
theorem bounds_of_mem_encodeChars {bytes : List UInt8} {c : Char}
    (member : c ∈ encodeChars bytes) : 48 ≤ c.toNat ∧ c.toNat ≤ 102 := by
  obtain ⟨n, small, rfl⟩ := exists_of_mem_encodeChars member
  exact bounds_of_digit small

/-- What is written is read back. -/
theorem decode?_encodeChars (bytes : List UInt8) : decode? (encodeChars bytes) = some bytes := by
  induction bytes with
  | nil => rfl
  | cons b bytes ih =>
    show decode? (digit (b / 16) :: digit (b % 16) :: encodeChars bytes) = _
    have parts : 16 * (b / 16) + b % 16 = b := by
      rw [← UInt8.toNat_inj]
      simp only [UInt8.toNat_add, UInt8.toNat_mul, UInt8.toNat_div, UInt8.toNat_mod]
      have byte := b.toNat_lt
      show (16 * (b.toNat / 16) % 256 + b.toNat % 16) % 256 = b.toNat
      omega
    simp only [decode?, value?_digit (high_lt b), value?_digit (low_lt b), ih, parts]

/-- The letter case of a digit does not matter. -/
theorem value?_toLower (c : Char) : value? c.toLower = value? c := by
  have ascii : ∀ n < 128, value? (Char.ofNat n).toLower = value? (Char.ofNat n) := by decide
  by_cases small : c.toNat < 128
  · have same := ascii c.toNat small
    rwa [Char.ofNat_toNat] at same
  · have same : c.toLower = c := by
      refine dif_neg fun capital => small (Nat.lt_of_le_of_lt (UInt32.le_iff_toNat_le.mp capital.2) ?_)
      decide
    rw [same]

theorem toNat_lt_of_value? {c : Char} {n : UInt8} (read : value? c = some n) : c.toNat < 103 := by
  simp only [value?] at read
  split at read
  · omega
  split at read
  · omega
  split at read
  · omega
  · cases read

/-- Only a digit has a value, that of the lower-case digit written for it. -/
private theorem toLower_of_value? {c : Char} {n : UInt8} (read : value? c = some n) :
    n < 16 ∧ c.toLower = digit n := by
  have ascii : ∀ m < 103, (value? (Char.ofNat m)).all fun n =>
      n < 16 ∧ (Char.ofNat m).toLower = digit n := by decide
  have found := ascii c.toNat (toNat_lt_of_value? read)
  rw [Char.ofNat_toNat, read] at found
  exact of_decide_eq_true found

/-- The halves of a byte that is put together from two digits. -/
private theorem halves {high low : UInt8} (h : high < 16) (l : low < 16) :
    (16 * high + low) / 16 = high ∧ (16 * high + low) % 16 = low := by
  rw [UInt8.lt_iff_toNat_lt] at h l
  have high16 : high.toNat < 16 := h
  have low16 : low.toNat < 16 := l
  simp only [← UInt8.toNat_inj, UInt8.toNat_div, UInt8.toNat_mod, UInt8.toNat_add, UInt8.toNat_mul]
  show (16 * high.toNat % 256 + low.toNat) % 256 / 16 = high.toNat ∧
    (16 * high.toNat % 256 + low.toNat) % 256 % 16 = low.toNat
  omega

private theorem decode?_map_toLower (cs : List Char) :
    decode? (cs.map Char.toLower) = decode? cs := by
  fun_induction decode? cs with
  | case1 => rfl
  | case2 => rfl
  | case3 high low rest h l bytes found atLow atHigh ih =>
    simp only [List.map_cons, decode?, value?_toLower, atHigh, atLow, ih, found]
  | case4 high low rest none ih =>
    simp only [List.map_cons, decode?, value?_toLower, ih]

private theorem map_toLower_of_decode? {cs : List Char} {bytes : List UInt8}
    (read : decode? cs = some bytes) : cs.map Char.toLower = encodeChars bytes := by
  fun_induction decode? cs generalizing bytes with
  | case1 =>
    cases read
    rfl
  | case2 => cases read
  | case3 high low rest h l bytes found atLow atHigh ih =>
    cases read
    obtain ⟨smallHigh, upper⟩ := toLower_of_value? atHigh
    obtain ⟨smallLow, lower⟩ := toLower_of_value? atLow
    obtain ⟨whole, rest⟩ := halves smallHigh smallLow
    rw [List.map_cons, List.map_cons, upper, lower, ih found]
    show _ = digit ((16 * h + l) / 16) :: digit ((16 * h + l) % 16) :: encodeChars bytes
    rw [whole, rest]
  | case4 => cases read

/-- What is read is what is written in the same digits in lower case. -/
theorem decode?_eq_some_iff {cs : List Char} {bytes : List UInt8} :
    decode? cs = some bytes ↔ cs.map Char.toLower = encodeChars bytes := by
  refine ⟨map_toLower_of_decode?, fun same => ?_⟩
  rw [← decode?_map_toLower, same, decode?_encodeChars]

theorem encode_inj {bytes other : List UInt8} : encode bytes = encode other ↔ bytes = other := by
  constructor
  · intro same
    have same := congrArg decode? (String.ofList_inj.mp same)
    rw [decode?_encodeChars, decode?_encodeChars] at same
    exact Option.some.inj same
  · rintro rfl
    rfl

end JobRelay.Text.Hex
