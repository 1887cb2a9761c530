import JobRelay.Data.Datum

/-! # JSON tokens

A JSON text is cut into tokens on its bytes. A text literal whose escapes or bytes are no text, and
a number beyond the range of doubles, keep their place but have no value. Where no token starts, a
`broken` token ends the sequence.

Numbers without fraction and exponent are whole if they fit sixty-four bits. All others become
doubles: the first digits that fit sixty-four bits are converted and scaled by one power of ten,
which may differ from the nearest double in the last place.
-/

namespace JobRelay.Json

inductive Token where
  | openList
  | closeList
  | openRecord
  | closeRecord
  | comma
  | colon
  | null
  | flag (value : Bool)
  | number (value : Option Datum)
  | text (value : Option String)
  | broken
deriving Repr, Inhabited

/-- A part of a text literal: a byte that stands for itself or a sixteen-bit unit of an escape. -/
inductive Piece where
  | byte (b : UInt8)
  | unit (n : Nat)

/-- The byte that a one-letter escape stands for. -/
def escaped? (b : UInt8) : Option UInt8 :=
  if b = 0x22 ∨ b = 0x5c ∨ b = 0x2f then some b
  else if b = 0x62 then some 0x08
  else if b = 0x66 then some 0x0c
  else if b = 0x6e then some 0x0a
  else if b = 0x72 then some 0x0d
  else if b = 0x74 then some 0x09
  else none

def hexValue? (b : UInt8) : Option Nat :=
  if 0x30 ≤ b ∧ b ≤ 0x39 then some (b.toNat - 0x30)
  else if 0x61 ≤ b ∧ b ≤ 0x66 then some (b.toNat - 0x57)
  else if 0x41 ≤ b ∧ b ≤ 0x46 then some (b.toNat - 0x37)
  else none

/-- The unit written by four hexadecimal digits, and what follows them. -/
def unit? : List UInt8 → Option (Nat × List UInt8)
  | a :: b :: c :: d :: rest =>
    match hexValue? a, hexValue? b, hexValue? c, hexValue? d with
    | some a, some b, some c, some d => some (((a * 16 + b) * 16 + c) * 16 + d, rest)
    | _, _, _, _ => none
  | _ => none

/-- The pieces of a text literal up to its closing quote, the last one first. -/
def scanPieces (fuel : Nat) (pieces : List Piece) (bytes : List UInt8) :
    Option (List Piece × List UInt8) :=
  match fuel, bytes with
  | 0, _ | _, [] => none
  | fuel + 1, b :: rest =>
    if b = 0x22 then some (pieces, rest)
    else if b = 0x5c then
      match rest with
      | [] => none
      | e :: rest =>
        if e = 0x75 then
          match unit? rest with
          | some (n, rest) => scanPieces fuel (.unit n :: pieces) rest
          | none => none
        else
          match escaped? e with
          | some b => scanPieces fuel (.byte b :: pieces) rest
          | none => none
    else if b < 0x20 then none
    else scanPieces fuel (.byte b :: pieces) rest

/-- The bytes of the pieces, which come last one first. Units of a pair belong together. -/
def pieceBytes? (bytes : List UInt8) : List Piece → Option (List UInt8)
  | [] => some bytes
  | .byte b :: rest => pieceBytes? (b :: bytes) rest
  | .unit low :: rest =>
    if 0xdc00 ≤ low ∧ low < 0xe000 then
      match rest with
      | .unit high :: rest =>
        if 0xd800 ≤ high ∧ high < 0xdc00 then
          let code := 0x10000 + (high - 0xd800) * 0x400 + (low - 0xdc00)
          pieceBytes? (String.utf8EncodeChar (Char.ofNat code) ++ bytes) rest
        else none
      | _ => none
    else if 0xd800 ≤ low ∧ low < 0xdc00 then none
    else pieceBytes? (String.utf8EncodeChar (Char.ofNat low) ++ bytes) rest

/-- A text literal after its opening quote. -/
def scanText (bytes : List UInt8) : Option (Option String × List UInt8) :=
  (scanPieces (bytes.length + 1) [] bytes).map fun (pieces, rest) =>
    ((pieceBytes? [] pieces).bind fun bs => String.fromUTF8? bs.toByteArray, rest)

def isDigit (b : UInt8) : Bool :=
  0x30 ≤ b && b ≤ 0x39

/-- A number literal in its parts. -/
structure Literal where
  negative : Bool
  whole : List UInt8
  fraction : List UInt8
  /-- Sign and digits of the exponent, if it is written. -/
  exponent : Option (Bool × List UInt8)

/-- An exponent, if one follows; none of the result if it is malformed. -/
def scanExponent? (bytes : List UInt8) : Option (Option (Bool × List UInt8) × List UInt8) :=
  match bytes with
  | e :: rest =>
    if e = 0x65 ∨ e = 0x45 then
      let (negative, rest) :=
        match rest with
        | s :: tail =>
          if s = 0x2d then (true, tail) else if s = 0x2b then (false, tail) else (false, rest)
        | [] => (false, rest)
      let digits := rest.takeWhile isDigit
      if digits.isEmpty then none else some (some (negative, digits), rest.drop digits.length)
    else some (none, bytes)
  | [] => some (none, bytes)

/-- The digits of a fraction, if one follows; none of the result if it has no digits. -/
def scanFraction? (bytes : List UInt8) : Option (List UInt8 × List UInt8) :=
  match bytes with
  | b :: rest =>
    if b = 0x2e then
      let digits := rest.takeWhile isDigit
      if digits.isEmpty then none else some (digits, rest.drop digits.length)
    else some ([], bytes)
  | [] => some ([], bytes)

/-- A number literal and what follows it. A leading zero stands alone. -/
def scanLiteral? (bytes : List UInt8) : Option (Literal × List UInt8) := do
  let (negative, bytes) :=
    match bytes with
    | b :: rest => if b = 0x2d then (true, rest) else (false, bytes)
    | [] => (false, bytes)
  let digits := bytes.takeWhile isDigit
  let rest := bytes.drop digits.length
  match digits with
  | [] => none
  | first :: more =>
    if first = 0x30 ∧ !more.isEmpty then none
    else
      let (fraction, rest) ← scanFraction? rest
      let (exponent, rest) ← scanExponent? rest
      return (⟨negative, digits, fraction, exponent⟩, rest)

/-- Appends digits while the number fits sixty-four bits; counts the digits kept and left over. -/
def gather (significand : Nat) : List UInt8 → Nat × Nat × Nat
  | [] => (significand, 0, 0)
  | d :: rest =>
    let next := significand * 10 + (d.toNat - 0x30)
    if next < Nat.pow 2 64 then
      let (n, kept, left) := gather next rest
      (n, kept + 1, left)
    else (significand, 0, rest.length + 1)

def ofDigits (digits : List UInt8) : Nat :=
  digits.foldl (fun n d => n * 10 + (d.toNat - 0x30)) 0

/-- A power of ten that is a double. -/
def powerOfTen (n : Nat) : Float :=
  Float.ofScientific 1 false n

/-- Scales by a power of ten; none if the result is beyond range. -/
def scale? (fuel : Nat) (f : Float) (exponent : Int) : Option Float :=
  match fuel with
  | 0 => some f
  | fuel + 1 =>
    if exponent.natAbs ≤ 308 then
      if 0 ≤ exponent then
        let scaled := f * powerOfTen exponent.natAbs
        if scaled.isInf then none else some scaled
      else some (f / powerOfTen exponent.natAbs)
    else if f == 0.0 then some f
    else if 0 ≤ exponent then none
    else scale? fuel (f / powerOfTen 308) (exponent + 308)

def Literal.real? (l : Literal) : Option Datum :=
  let (significand, _, dropped) := gather 0 l.whole
  let (significand, kept, _) := gather significand l.fraction
  let base : Int := (dropped : Int) - kept
  let signed (f : Float) : Datum := .real (if l.negative then -f else f).toBits
  let written := (l.exponent.map (·.2)).getD []
  let power := ofDigits written
  let lowers := (l.exponent.map (·.1)).getD false
  if Nat.pow 2 31 ≤ power then
    if significand = 0 ∨ lowers then some (signed 0.0) else none
  else
    let exponent := if lowers then base - power else base + power
    (scale? 12 (UInt64.ofNat significand).toFloat exponent).map signed

def Literal.value? (l : Literal) : Option Datum :=
  let n := ofDigits l.whole
  if l.fraction.isEmpty ∧ l.exponent.isNone ∧ n < Nat.pow 2 64 then
    if !l.negative then some (.whole n)
    else if 0 < n ∧ n ≤ Nat.pow 2 63 then some (.whole (-(n : Int)))
    else some (.real (-(UInt64.ofNat n).toFloat).toBits)
  else l.real?

/-- The token that starts with a given byte, and what follows it. -/
def scanToken? (b : UInt8) (rest : List UInt8) : Option (Token × List UInt8) :=
  if b = 0x5b then some (.openList, rest)
  else if b = 0x5d then some (.closeList, rest)
  else if b = 0x7b then some (.openRecord, rest)
  else if b = 0x7d then some (.closeRecord, rest)
  else if b = 0x2c then some (.comma, rest)
  else if b = 0x3a then some (.colon, rest)
  else if b = 0x22 then (scanText rest).map fun (s, rest) => (.text s, rest)
  else if b = 0x6e then
    if rest.take 3 = [0x75, 0x6c, 0x6c] then some (.null, rest.drop 3) else none
  else if b = 0x74 then
    if rest.take 3 = [0x72, 0x75, 0x65] then some (.flag true, rest.drop 3) else none
  else if b = 0x66 then
    if rest.take 4 = [0x61, 0x6c, 0x73, 0x65] then some (.flag false, rest.drop 4) else none
  else (scanLiteral? (b :: rest)).map fun (l, rest) => (.number l.value?, rest)

/-- Whether a byte may stand between tokens. -/
def isSpace (b : UInt8) : Bool :=
  b = 0x20 || b = 0x09 || b = 0x0a || b = 0x0d

/-- The tokens of a text, the last one first. -/
def scanAll (fuel : Nat) (tokens : List Token) (bytes : List UInt8) : List Token :=
  match fuel, bytes with
  | 0, _ | _, [] => tokens
  | fuel + 1, b :: rest =>
    if isSpace b then scanAll fuel tokens rest
    else
      match scanToken? b rest with
      | some (token, rest) => scanAll fuel (token :: tokens) rest
      | none => .broken :: tokens

def Token.scan (bytes : List UInt8) : List Token :=
  (scanAll (bytes.length + 1) [] bytes).reverse

end JobRelay.Json
