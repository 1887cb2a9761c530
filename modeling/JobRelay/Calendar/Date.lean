import JobRelay.Text.Blank
import JobRelay.Text.Digits

/-! # Calendar dates

Dates of the proleptic Gregorian calendar, counted in days from 1 January 1970, with their written
form and the tolerant reader that accepts unpadded numbers and blanks around them.
-/

namespace JobRelay

/-- A day of the calendar. -/
structure Date where
  year : Int
  month : Nat
  day : Nat
deriving DecidableEq, Repr, Inhabited

namespace Date

/-- Every fourth year, except centuries that are not multiples of four hundred. -/
def isLeapYear (year : Int) : Bool :=
  year % 4 == 0 && (year % 100 != 0 || year % 400 == 0)

def daysInMonth (year : Int) (month : Nat) : Nat :=
  match month with
  | 2 => if isLeapYear year then 29 else 28
  | 4 | 6 | 9 | 11 => 30
  | _ => 31

/-- The first and the last year that dates are kept for. -/
def leastYear : Int := -262143

/-- The last year that dates are kept for. -/
def greatestYear : Int := 262142

/-- A year, month and day that exist. -/
def ofParts? (year : Int) (month day : Nat) : Option Date :=
  if leastYear ≤ year ∧ year ≤ greatestYear ∧ 1 ≤ month ∧ month ≤ 12 ∧ 1 ≤ day ∧
      day ≤ daysInMonth year month then
    some ⟨year, month, day⟩
  else none

/-- Days since 1 January 1970. Years are counted from March, so that the leap day ends the year. -/
def toDays (d : Date) : Int :=
  let year := if d.month ≤ 2 then d.year - 1 else d.year
  let month : Int := if d.month ≤ 2 then d.month + 9 else d.month - 3
  let inEra := year % 400
  let dayOfYear := (153 * month + 2) / 5 + d.day - 1
  let dayOfEra := inEra * 365 + inEra / 4 - inEra / 100 + dayOfYear
  year / 400 * 146097 + dayOfEra - 719468

/-- The date a number of days after 1 January 1970. -/
def ofDays (days : Int) : Date :=
  let shifted := days + 719468
  let dayOfEra := shifted % 146097
  let inEra := (dayOfEra - dayOfEra / 1460 + dayOfEra / 36524 - dayOfEra / 146096) / 365
  let dayOfYear := dayOfEra - (365 * inEra + inEra / 4 - inEra / 100)
  let month := (5 * dayOfYear + 2) / 153
  let day := dayOfYear - (153 * month + 2) / 5 + 1
  let year := inEra + shifted / 146097 * 400
  if month < 10 then ⟨year, (month + 3).toNat, day.toNat⟩
  else ⟨year + 1, (month - 9).toNat, day.toNat⟩

/-- Four digits for a year of the common calendar, a sign and at least four digits for others. -/
def yearChars (year : Int) : List Char :=
  if year < 0 then '-' :: Text.padded 4 year.natAbs
  else if year ≤ 9999 then Text.padded 4 year.natAbs
  else '+' :: Text.padded 4 year.natAbs

/-- The written form of a date, `2026-01-31`. -/
def toChars (d : Date) : List Char :=
  yearChars d.year ++ '-' :: Text.padded 2 d.month ++ '-' :: Text.padded 2 d.day

def format (d : Date) : String :=
  String.ofList d.toChars

open Text

/-- A year at the front: any digits after a sign, one to four without. -/
def scanYear? (cs : List Char) : Option (Int × List Char) :=
  match trimLeft cs with
  | '-' :: rest => (scanNumber? 1 rest.length rest).map fun (n, rest) => (-(n : Int), rest)
  | '+' :: rest => (scanNumber? 1 rest.length rest).map fun (n, rest) => ((n : Int), rest)
  | cs => (scanNumber? 1 4 cs).map fun (n, rest) => ((n : Int), rest)

/-- One or two digits at the front, blanks before them skipped. -/
def scanShort? (cs : List Char) : Option (Nat × List Char) :=
  scanNumber? 1 2 (trimLeft cs)

/-- The mark at the front, blanks before it skipped. -/
def scanMark? (mark : Char) (cs : List Char) : Option (List Char) :=
  dropPrefix? [mark] (trimLeft cs)

/-- A date at the front, numbers unpadded if need be and blanks around them. -/
def scanLoose? (cs : List Char) : Option (Date × List Char) := do
  let (year, cs) ← scanYear? cs
  let cs ← scanMark? '-' cs
  let (month, cs) ← scanShort? cs
  let cs ← scanMark? '-' cs
  let (day, cs) ← scanShort? cs
  let date ← ofParts? year month day
  return (date, cs)

/-- The date that a text stands for, with nothing but blanks after it. -/
def read? (text : String) : Option Date := do
  let (date, rest) ← scanLoose? text.toList
  if rest.all isBlank then some date else none

end Date

end JobRelay
