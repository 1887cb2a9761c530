import JobRelay.Text.Hex

/-! # Percent encoding

In paths and queries a byte may be written as a percent sign and two hexadecimal digits. Decoding
leaves a percent sign alone that no two digits follow. In a query a plus sign stands for a blank.
-/

namespace JobRelay.Text.Percent

/-- The percent sign. -/
def mark : UInt8 := 37

/-- The byte that two bytes write as hexadecimal digits. -/
def pair? (high low : UInt8) : Option UInt8 :=
  match Hex.value? (Char.ofNat high.toNat), Hex.value? (Char.ofNat low.toNat) with
  | some h, some l => some (16 * h + l)
  | _, _ => none

/-- The bytes with every written byte in place of its three. -/
def decode : List UInt8 → List UInt8
  | b :: high :: low :: rest =>
    if b = mark then
      match pair? high low with
      | some byte => byte :: decode rest
      | none => b :: decode (high :: low :: rest)
    else b :: decode (high :: low :: rest)
  | bytes => bytes

/-- The bytes of a form value: plus signs stand for blanks. -/
def decodeForm (bytes : List UInt8) : List UInt8 :=
  decode (bytes.map fun b => if b = 43 then 32 else b)

def upperDigit (n : Nat) : Char :=
  if n < 10 then Char.ofNat (48 + n) else Char.ofNat (55 + n)

/-- Whether a character of a query is written by its bytes. -/
def isEscapedInQuery (c : Char) : Bool :=
  c.toNat ≤ 32 || 127 ≤ c.toNat || "\"#<>'".toList.contains c

/-- Whether a character of a path is written by its bytes. -/
def isEscapedInPath (c : Char) : Bool :=
  c.toNat ≤ 32 || 127 ≤ c.toNat || "\"#<>?^\x60\x7b\x7d".toList.contains c

/-- The bytes of a character, each written with a percent sign. -/
def encodeChar (c : Char) : List Char :=
  c.toString.toUTF8.toList.flatMap fun b =>
    ['%', upperDigit (b.toNat / 16), upperDigit (b.toNat % 16)]

/-- Characters of which some are written by their bytes. -/
def encode (isEscaped : Char → Bool) (cs : List Char) : List Char :=
  cs.flatMap fun c => if isEscaped c then encodeChar c else [c]

/-- A path and, behind a question mark, a query as they are sent. A fragment is not sent. -/
def encodeTarget (cs : List Char) : List Char :=
  let cs := cs.takeWhile (· != '#')
  let path := cs.takeWhile (· != '?')
  encode isEscapedInPath path ++ encode isEscapedInQuery (cs.drop path.length)

end JobRelay.Text.Percent
