import JobRelay.Data.Datum
import JobRelay.Calendar.Date

/-! # TOML keys and scalars

The parts of a configuration file that hold no others: blanks and comments, keys, texts in their
four spellings, numbers, truth values and times. Each reader takes a part off the front and returns
what follows it.
-/

namespace JobRelay.Toml

open Text (dropPrefix?)

def skipBlanks (cs : List Char) : List Char :=
  cs.dropWhile fun c => c == ' ' || c == '\t'

/-- Control characters other than the tab are never written raw. -/
def isForbidden (c : Char) : Bool :=
  (c.toNat < 0x20 && c != '\t') || c.toNat == 0x7f

/-- A line end at the front. -/
def newline? (cs : List Char) : Option (List Char) :=
  match cs with
  | '\n' :: rest => some rest
  | '\r' :: '\n' :: rest => some rest
  | _ => none

def skipComment? (cs : List Char) : Option (List Char) :=
  match cs with
  | '#' :: rest =>
    let rest := rest.dropWhile fun c => !isForbidden c
    if rest.isEmpty || (newline? rest).isSome then some rest else none
  | _ => some cs

/-- The rest of a line: blanks, a comment and the line end or the end of the text. -/
def endOfLine? (cs : List Char) : Option (List Char) := do
  let cs ← skipComment? (skipBlanks cs)
  if cs.isEmpty then some [] else newline? cs

/-- Blanks, comments and line ends between the parts of a list. -/
def skipLines (fuel : Nat) (cs : List Char) : Option (List Char) :=
  match fuel with
  | 0 => some cs
  | fuel + 1 => do
    let cs ← skipComment? (skipBlanks cs)
    match newline? cs with
    | some rest => skipLines fuel rest
    | none => some cs

def hexValue? (c : Char) : Option Nat :=
  if c.isDigit then some (c.toNat - 48)
  else if 'a' ≤ c ∧ c ≤ 'f' then some (c.toNat - 87)
  else if 'A' ≤ c ∧ c ≤ 'F' then some (c.toNat - 55)
  else none

/-- The character whose code point is written by `width` hexadecimal digits. -/
def codePoint? (width : Nat) (cs : List Char) : Option (Char × List Char) := do
  let values ← (cs.take width).mapM hexValue?
  if values.length < width then none
  else
    let n := values.foldl (fun n d => n * 16 + d) 0
    if n < 0xd800 ∨ (0xdfff < n ∧ n < 0x110000) then some (Char.ofNat n, cs.drop width) else none

/-- The character of an escape after its backslash. -/
def escape? (cs : List Char) : Option (Char × List Char) :=
  match cs with
  | 'b' :: rest => some ('\x08', rest)
  | 't' :: rest => some ('\t', rest)
  | 'n' :: rest => some ('\n', rest)
  | 'f' :: rest => some ('\x0c', rest)
  | 'r' :: rest => some ('\r', rest)
  | 'e' :: rest => some ('\x1b', rest)
  | '"' :: rest => some ('"', rest)
  | '\\' :: rest => some ('\\', rest)
  | 'x' :: rest => codePoint? 2 rest
  | 'u' :: rest => codePoint? 4 rest
  | 'U' :: rest => codePoint? 8 rest
  | _ => none

/-- A text in quotes after the opening one; `found` holds its characters, the last one first. -/
def basicText? (fuel : Nat) (found cs : List Char) : Option (String × List Char) :=
  match fuel, cs with
  | 0, _ | _, [] => none
  | fuel + 1, c :: rest =>
    if c = '"' then some (String.ofList found.reverse, rest)
    else if c = '\\' then
      match escape? rest with
      | some (e, rest) => basicText? fuel (e :: found) rest
      | none => none
    else if isForbidden c then none
    else basicText? fuel (c :: found) rest

/-- A text in apostrophes after the opening one. -/
def literalText? (cs : List Char) : Option (String × List Char) :=
  let body := cs.takeWhile fun c => c != '\'' && !isForbidden c
  match cs.drop body.length with
  | '\'' :: rest => some (String.ofList body, rest)
  | _ => none

/-- The run of one quote at the front and what follows it, at most five of them. -/
def quoteRun (quote : Char) (cs : List Char) : Nat × List Char :=
  let run := (cs.take 5).takeWhile (· == quote)
  (run.length, cs.drop run.length)

/-- After a backslash at the end of a line, blanks and line ends are skipped. -/
def lineJoin? (cs : List Char) : Option (List Char) :=
  let rest := skipBlanks cs
  (newline? rest).map fun rest =>
    rest.dropWhile fun c => c == ' ' || c == '\t' || c == '\n' || c == '\r'

/-- A text over several lines after its three opening quotes; `found` holds its characters, the
last one first. Quotes before the closing three belong to the text. -/
def longText? (fuel : Nat) (quote : Char) (found cs : List Char) : Option (String × List Char) :=
  match fuel, cs with
  | 0, _ | _, [] => none
  | fuel + 1, c :: rest =>
    if c = quote then
      let (count, after) := quoteRun quote cs
      if 3 ≤ count then
        some (String.ofList (found.reverse ++ List.replicate (count - 3) quote), after)
      else longText? fuel quote (List.replicate count quote ++ found) after
    else if c = '\\' ∧ quote = '"' then
      match escape? rest with
      | some (e, rest) => longText? fuel quote (e :: found) rest
      | none =>
        match lineJoin? rest with
        | some rest => longText? fuel quote found rest
        | none => none
    else
      match newline? cs with
      | some rest => longText? fuel quote ('\n' :: found) rest
      | none => if isForbidden c then none else longText? fuel quote (c :: found) rest

/-- The line end right after the opening quotes does not belong to a text. -/
def dropFirstNewline (cs : List Char) : List Char :=
  (newline? cs).getD cs

def text? (cs : List Char) : Option (String × List Char) :=
  match cs with
  | '"' :: '"' :: '"' :: rest =>
    let body := dropFirstNewline rest
    longText? (body.length + 1) '"' [] body
  | '\'' :: '\'' :: '\'' :: rest =>
    let body := dropFirstNewline rest
    longText? (body.length + 1) '\'' [] body
  | '"' :: rest => basicText? (rest.length + 1) [] rest
  | '\'' :: rest => literalText? rest
  | _ => none

/-- The characters of a key without quotes. -/
def isBareKey (c : Char) : Bool :=
  c.isAlphanum || c == '_' || c == '-'

/-- One part of a key. -/
def simpleKey? (cs : List Char) : Option (String × List Char) :=
  match cs with
  | '"' :: rest => basicText? (rest.length + 1) [] rest
  | '\'' :: rest => literalText? rest
  | _ =>
    let body := cs.takeWhile isBareKey
    if body.isEmpty then none else some (String.ofList body, cs.drop body.length)

/-- A key: parts with points between them, blanks around the points allowed. -/
def key? (fuel : Nat) (cs : List Char) : Option (List String × List Char) :=
  match fuel with
  | 0 => none
  | fuel + 1 => do
    let (part, cs) ← simpleKey? (skipBlanks cs)
    match skipBlanks cs with
    | '.' :: rest =>
      let (parts, cs) ← key? fuel rest
      return (part :: parts, cs)
    | rest => return ([part], rest)

/-! ## Numbers and times -/

/-- Digits with single underscores between them, without the underscores. -/
def grouped? (isDigit : Char → Bool) : List Char → Option (List Char)
  | [] => none
  | [c] => if isDigit c then some [c] else none
  | c :: '_' :: rest => if isDigit c then (grouped? isDigit rest).map (c :: ·) else none
  | c :: rest => if isDigit c then (grouped? isDigit rest).map (c :: ·) else none

/-- A whole number in a base with a mark of its own. -/
def based? (base : Nat) (cs : List Char) : Option Int := do
  let digits ← grouped? (fun c => (hexValue? c).any (· < base)) cs
  return digits.foldl (fun n c => n * base + (hexValue? c).getD 0) 0

def sign (cs : List Char) : Bool × List Char :=
  match cs with
  | '-' :: rest => (true, rest)
  | '+' :: rest => (false, rest)
  | _ => (false, cs)

/-- Decimal digits without a leading zero, unless it stands alone. -/
def decimal? (cs : List Char) : Option (List Char) := do
  let digits ← grouped? Char.isDigit cs
  if digits.length > 1 && digits.head? == some '0' then none else some digits

def whole? (cs : List Char) : Option Int :=
  match cs with
  | '0' :: 'x' :: rest => based? 16 rest
  | '0' :: 'o' :: rest => based? 8 rest
  | '0' :: 'b' :: rest => based? 2 rest
  | _ =>
    let (negative, body) := sign cs
    (decimal? body).map fun digits =>
      let n : Int := Text.ofDigits digits
      if negative then -n else n

/-- A double: sign, digits, and a fraction or an exponent or both. A number beyond range is none. -/
def real? (cs : List Char) : Option UInt64 := do
  let (negative, body) := sign cs
  let signed (f : Float) : UInt64 := (if negative then -f else f).toBits
  if body = ['i', 'n', 'f'] then return signed (1.0 / 0.0)
  if body = ['n', 'a', 'n'] then
    return (if negative then 0xfff8000000000000 else 0x7ff8000000000000)
  let isExponent := fun c => c == 'e' || c == 'E'
  let mantissa := body.takeWhile fun c => !isExponent c
  let tail := body.drop mantissa.length
  let wholePart := mantissa.takeWhile (· != '.')
  let wholeDigits ← decimal? wholePart
  let fraction ←
    match mantissa.drop wholePart.length with
    | '.' :: rest => grouped? Char.isDigit rest
    | _ => some []
  let power ←
    match tail with
    | _ :: rest =>
      let (lowers, digits) := sign rest
      (grouped? Char.isDigit digits).map fun digits =>
        let n : Int := Text.ofDigits digits
        if lowers then -n else n
    | [] => some 0
  if fraction.isEmpty && tail.isEmpty then none
  else
    let significand := Text.ofDigits (wholeDigits ++ fraction)
    let exponent := power - fraction.length
    -- Beyond four hundred places nothing is left, or everything overflows.
    let exponent := max (-20000) (min 20000 exponent)
    let f := if exponent < 0 then Float.ofScientific significand true exponent.natAbs
      else Float.ofScientific significand false exponent.natAbs
    if f.isInf then none else return signed f

/-- A time of day with an optional fraction; seconds may be left out. -/
def timeOfDay? (cs : List Char) : Option (List Char) := do
  let (hour, cs) ← Text.scanNumber? 2 2 cs
  let cs ← dropPrefix? [':'] cs
  let (minute, cs) ← Text.scanNumber? 2 2 cs
  if hour > 23 || minute > 59 then none
  else
    match cs with
    | ':' :: rest =>
      let (second, cs) ← Text.scanNumber? 2 2 rest
      if second > 60 then none
      else
        match cs with
        | '.' :: rest =>
          let run := rest.takeWhile Char.isDigit
          if run.isEmpty then none else some (rest.drop run.length)
        | _ => some cs
    | _ => some cs

/-- An offset from UTC, or none. -/
def offset? (cs : List Char) : Option (List Char) :=
  match cs with
  | 'Z' :: rest | 'z' :: rest => some rest
  | '+' :: rest | '-' :: rest => do
    let (hour, cs) ← Text.scanNumber? 2 2 rest
    let cs ← dropPrefix? [':'] cs
    let (minute, cs) ← Text.scanNumber? 2 2 cs
    if hour > 23 || minute > 59 then none else some cs
  | _ => some cs

/-- Whether the characters are a date, a time of day, or both with an optional offset. -/
def isTime (cs : List Char) : Bool :=
  let date : Option (List Char) := do
    let (year, cs) ← Text.scanNumber? 4 4 cs
    let cs ← dropPrefix? ['-'] cs
    let (month, cs) ← Text.scanNumber? 2 2 cs
    let cs ← dropPrefix? ['-'] cs
    let (day, cs) ← Text.scanNumber? 2 2 cs
    let _ ← Date.ofParts? year month day
    return cs
  match date with
  | none => timeOfDay? cs == some []
  | some [] => true
  | some (c :: rest) =>
    (c == 'T' || c == 't' || c == ' ') && ((timeOfDay? rest).bind offset?) == some []

/-- The name under which a time stands in the place of a record. -/
def timeField : String := "$time"

/-- The characters that a bare scalar is made of. -/
def isScalarChar (c : Char) : Bool :=
  c.isAlphanum || c == '+' || c == '-' || c == '_' || c == '.' || c == ':'

/-- A truth value, number or time. A blank may stand between a date and a time of day. -/
def scalar? (cs : List Char) : Option (Datum × List Char) := do
  let word := cs.takeWhile isScalarChar
  let rest := cs.drop word.length
  let joined :=
    match rest with
    | ' ' :: tail =>
      let time := tail.takeWhile isScalarChar
      if word.length == 10 && isTime word && time.head?.any Char.isDigit then
        some (word ++ ' ' :: time, tail.drop time.length)
      else none
    | _ => none
  match joined with
  | some (both, rest) =>
    if isTime both then return (.record [(timeField, .text (String.ofList both))], rest) else none
  | none =>
    if word = ['t', 'r', 'u', 'e'] then return (.flag true, rest)
    else if word = ['f', 'a', 'l', 's', 'e'] then return (.flag false, rest)
    else
      match whole? word, real? word with
      | some n, _ => return (.whole n, rest)
      | none, some bits => return (.real bits, rest)
      | none, none =>
        if isTime word then return (.record [(timeField, .text (String.ofList word))], rest)
        else none

end JobRelay.Toml
