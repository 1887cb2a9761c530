import JobRelay.Text.Blank
import JobRelay.Text.Digits
import JobRelay.Text.Hex

/-! # Network addresses

Internet addresses as they are written: four decimal numbers, or eight groups of hexadecimal digits
of which one run of zeros may be left out. Two texts of one address have the same canonical text.
-/

namespace JobRelay

inductive IpAddress where
  /-- Four numbers below 256. -/
  | four (parts : List Nat)
  /-- Eight numbers below 65536. -/
  | six (groups : List Nat)
deriving DecidableEq, Repr

namespace IpAddress

open Text

/-- A decimal number below 256 without a zero in front. -/
def scanPart? (cs : List Char) : Option (Nat × List Char) :=
  match scanNumber? 1 3 cs with
  | some (n, rest) =>
    if 255 < n ∨ (cs.head? = some '0' ∧ 1 < cs.length - rest.length) then none else some (n, rest)
  | none => none

/-- Some decimal numbers with points between them. -/
def scanParts? : Nat → List Char → Option (List Nat × List Char)
  | 0, cs => some ([], cs)
  | 1, cs => (scanPart? cs).map fun (n, rest) => ([n], rest)
  | count + 1, cs => do
    let (n, rest) ← scanPart? cs
    let rest ← dropPrefix? ['.'] rest
    let (more, rest) ← scanParts? count rest
    return (n :: more, rest)

def isHexDigit (c : Char) : Bool := (Hex.value? c).isSome

/-- One to four hexadecimal digits. -/
def scanGroup? (cs : List Char) : Option (Nat × List Char) :=
  let run := (cs.take 4).takeWhile isHexDigit
  if run.isEmpty then none
  else
    some (run.foldl (fun n c => 16 * n + ((Hex.value? c).getD 0).toNat) 0, cs.drop run.length)

/-- Four decimal numbers as two groups. -/
def scanEmbedded? (cs : List Char) : Option (List Nat × List Char) :=
  match scanParts? 4 cs with
  | some ([a, b, c, d], rest) => some ([256 * a + b, 256 * c + d], rest)
  | _ => none

/-- As many groups as there are, at most `limit`, with colons between them. Where two more fit, four
decimal numbers may stand for the last two; the flag tells whether they do. -/
def scanGroups : Nat → Bool → List Char → List Nat × Bool × List Char
  | 0, _, cs => ([], false, cs)
  | limit + 1, isFirst, cs =>
    match if isFirst then some cs else dropPrefix? [':'] cs with
    | none => ([], false, cs)
    | some rest =>
      match if 0 < limit then scanEmbedded? rest else none with
      | some (groups, rest) => (groups, true, rest)
      | none =>
        match scanGroup? rest with
        | none => ([], false, cs)
        | some (group, rest) =>
          let (groups, embedded, rest) := scanGroups limit false rest
          (group :: groups, embedded, rest)

/-- Eight groups, or fewer with `::` in place of the zeros left out. -/
def scanSix? (cs : List Char) : Option (List Nat × List Char) :=
  let (head, embedded, rest) := scanGroups 8 true cs
  if head.length = 8 then some (head, rest)
  else if embedded then none
  else
    match dropPrefix? [':', ':'] rest with
    | none => none
    | some rest =>
      let (tail, _, rest) := scanGroups (7 - head.length) true rest
      some (head ++ List.replicate (8 - head.length - tail.length) 0 ++ tail, rest)

/-- An address with nothing after it. -/
def read? (text : String) : Option IpAddress :=
  match scanParts? 4 text.toList with
  | some (parts, []) => some (.four parts)
  | _ =>
    match scanSix? text.toList with
    | some (groups, []) => some (.six groups)
    | _ => none

def hexText (n : Nat) : String := String.ofList (Nat.toDigits 16 n)

/-- The length of the run of zeros at the front. -/
def zerosAhead (groups : List Nat) : Nat := (groups.takeWhile (· == 0)).length

/-- The place and the length of the longest run of zeros, the first of several. -/
def longestZeros (groups : List Nat) : Nat × Nat :=
  (List.range groups.length).foldl
    (fun best i =>
      let length := zerosAhead (groups.drop i)
      if best.2 < length then (i, length) else best)
    (0, 0)

/-- The canonical text of an address. -/
def canonical : IpAddress → String
  | .four parts => ".".intercalate (parts.map toString)
  | .six groups =>
    match groups with
    | [0, 0, 0, 0, 0, 0xffff, high, low] =>
      "::ffff:" ++ ".".intercalate
        ([high / 256, high % 256, low / 256, low % 256].map toString)
    | _ =>
      let (start, length) := longestZeros groups
      if 1 < length then
        ":".intercalate ((groups.take start).map hexText) ++ "::" ++
          ":".intercalate ((groups.drop (start + length)).map hexText)
      else ":".intercalate (groups.map hexText)

/-- Whether every machine has an address: that of itself, or the one that stands for all of its
addresses. -/
def isOwn : IpAddress → Bool
  | four parts => parts.head? == some 127 || parts.all (· == 0)
  | six groups =>
    match groups with
    | [0, 0, 0, 0, 0, 0xffff, high, low] => high / 256 == 127 || (high == 0 && low == 0)
    | _ => groups.dropLast.all (· == 0) && groups.getLast?.any (· ≤ 1)

end IpAddress

/-- A port after its colon, at the end of an address. -/
def scanPort? (cs : List Char) : Option Nat := do
  let digits ← Text.dropPrefix? [':'] cs
  let port ← Text.natural? digits
  if port < 65536 then some port else none

/-- The scope of an address on one link, if it is given: a percent sign and a number. -/
def skipScope? (cs : List Char) : Option (List Char) :=
  match cs with
  | '%' :: rest =>
    let run := rest.takeWhile Char.isDigit
    if run.isEmpty || 4294967295 < Text.ofDigits run then none else some (rest.drop run.length)
  | _ => some cs

/-- The address of a text that is an address with a port; one with groups stands in square
brackets. -/
def IpAddress.ofSocket? (text : String) : Option IpAddress :=
  match IpAddress.scanParts? 4 text.toList with
  | some (parts, rest) => (scanPort? rest).map fun _ => .four parts
  | none => do
    let cs ← Text.dropPrefix? ['['] text.toList
    let (groups, cs) ← IpAddress.scanSix? cs
    let cs ← skipScope? cs
    let cs ← Text.dropPrefix? [']'] cs
    (scanPort? cs).map fun _ => .six groups

end JobRelay
