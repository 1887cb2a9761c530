import JobRelay.Calendar.Date

/-! # Instants

Points of time in UTC to the nanosecond. A leap second is kept on second 59 of its minute with a
fraction of a whole second or more, and is written as second 60. Instants have two written forms:
the stored one always has three fraction digits, so that texts of equal length compare like times;
the shown one has as few digits as hold the value.
-/

namespace JobRelay

/-- Seconds since 1970 and nanoseconds, of which a leap second has a thousand million or more. -/
structure Instant where
  seconds : Int
  nanos : Nat
deriving DecidableEq, Repr, Inhabited

namespace Instant

def nanosPerSecond : Nat := 1000000000

/-- Earlier seconds first, then smaller fractions. -/
def before (a b : Instant) : Bool :=
  a.seconds < b.seconds || (a.seconds == b.seconds && a.nanos < b.nanos)

/-- The instant without what is finer than a millisecond. -/
def toMillis (t : Instant) : Instant :=
  ⟨t.seconds, t.nanos / 1000000 * 1000000⟩

/-- The date in UTC. -/
def date (t : Instant) : Date :=
  Date.ofDays (t.seconds / 86400)

def secondOfDay (t : Instant) : Nat :=
  (t.seconds % 86400).toNat

/-- Date and time to the second, without a fraction. -/
def wholeChars (t : Instant) : List Char :=
  let s := t.secondOfDay
  t.date.toChars ++ 'T' :: Text.padded 2 (s / 3600) ++ ':' :: Text.padded 2 (s / 60 % 60) ++
    ':' :: Text.padded 2 (s % 60 + t.nanos / nanosPerSecond)

/-- The stored form: three fraction digits, what is finer cut off. -/
def storedChars (t : Instant) : List Char :=
  t.wholeChars ++ '.' :: Text.padded 3 (t.nanos % nanosPerSecond / 1000000) ++ ['Z']

def stored (t : Instant) : String :=
  String.ofList t.storedChars

/-- The shown form: no, three, six or nine fraction digits, as few as hold the value. -/
def shown (t : Instant) : String :=
  let nanos := t.nanos % nanosPerSecond
  let fraction :=
    if nanos = 0 then []
    else if nanos % 1000000 = 0 then '.' :: Text.padded 3 (nanos / 1000000)
    else if nanos % 1000 = 0 then '.' :: Text.padded 6 (nanos / 1000)
    else '.' :: Text.padded 9 nanos
  String.ofList (t.wholeChars ++ fraction ++ ['Z'])

/-- An instant of whole seconds and nanoseconds below a second. -/
def ofMillis (millis : Int) : Instant :=
  ⟨millis / 1000, (millis % 1000).toNat * 1000000⟩

/-- The first second of the first year that instants are kept for. -/
def leastSecond : Int := (Date.mk Date.leastYear 1 1).toDays * 86400

/-- The last second of the last year that instants are kept for. -/
def greatestSecond : Int := (Date.mk Date.greatestYear 12 31).toDays * 86400 + 86399

/-- Nanoseconds from `a` to `b`. A leap second between their times of day counts as a second. -/
def nanosUntil (a b : Instant) : Int :=
  let leap : Int :=
    if a.secondOfDay < b.secondOfDay then (if nanosPerSecond ≤ a.nanos then 1 else 0)
    else if b.secondOfDay < a.secondOfDay then (if nanosPerSecond ≤ b.nanos then -1 else 0)
    else 0
  (b.seconds - a.seconds + leap) * nanosPerSecond + ((b.nanos : Int) - a.nanos)

/-- Whole minutes from `a` to `b`, cut toward zero. -/
def minutesUntil (a b : Instant) : Int :=
  (nanosUntil a b).tdiv (60 * nanosPerSecond)

/-- The greatest number of milliseconds that a span of time may have. -/
def greatestSpanMillis : Int := 9223372036854775807

/-- The instant some minutes earlier, if both the span and the instant can be kept. Leaving a leap
second backwards first completes it, leaving it forwards drops it. -/
def minusMinutes? (t : Instant) (minutes : Int) : Option Instant :=
  let span := minutes * 60
  let limit := greatestSpanMillis / 1000
  if span < -limit ∨ limit < span then none
  else
    let moved : Instant :=
      if nanosPerSecond ≤ t.nanos ∧ 0 < span then ⟨t.seconds + 1 - span, t.nanos - nanosPerSecond⟩
      else if nanosPerSecond ≤ t.nanos ∧ span < 0 then ⟨t.seconds - span, t.nanos - nanosPerSecond⟩
      else ⟨t.seconds - span, t.nanos⟩
    if leastSecond ≤ moved.seconds ∧ moved.seconds ≤ greatestSecond then some moved else none

open Text

/-- A fraction after its point: one to nine digits count, further ones are dropped. -/
def scanFraction? (cs : List Char) : Option (Nat × List Char) := do
  let run := (cs.take 9).takeWhile Char.isDigit
  if run.isEmpty then none
  else
    some (ofDigits run * Nat.pow 10 (9 - run.length),
      (cs.drop run.length).dropWhile Char.isDigit)

/-- An optional point and fraction, in nanoseconds. -/
def scanOptionalFraction? (cs : List Char) : Option (Nat × List Char) :=
  match cs with
  | '.' :: rest => scanFraction? rest
  | _ => some (0, cs)

/-- An offset from UTC in seconds: `Z`, or a sign, two digits, the separator and two digits. -/
def scanOffset? (separator : List Char → Option (List Char)) (cs : List Char) :
    Option (Int × List Char) := do
  let signed (sign : Int) (cs : List Char) : Option (Int × List Char) := do
    let (hours, cs) ← scanNumber? 2 2 cs
    let cs ← separator cs
    let (minutes, cs) ← scanNumber? 2 2 cs
    if minutes < 60 then some (sign * ((hours * 60 + minutes) * 60 : Nat), cs) else none
  match cs with
  | 'Z' :: rest | 'z' :: rest => some (0, rest)
  | '+' :: rest => signed 1 rest
  | '-' :: rest | '\u2212' :: rest => signed (-1) rest
  | _ => none

/-- The instant of a date, a time of day and an offset. Second 60 is the leap second after 59. -/
def ofParts? (date : Date) (hour minute second nanos : Nat) (offset : Int) : Option Instant :=
  if hour < 24 ∧ minute < 60 ∧ second ≤ 60 ∧ -86400 < offset ∧ offset < 86400 then
    let (second, nanos) := if second = 60 then (59, nanos + nanosPerSecond) else (second, nanos)
    let instant := date.toDays * 86400 + (hour * 3600 + minute * 60 + second : Nat) - offset
    if leastSecond ≤ instant ∧ instant ≤ greatestSecond then some ⟨instant, nanos⟩ else none
  else none

/-- What separates a date from a time. -/
def scanSeparator? (cs : List Char) : Option (List Char) :=
  match cs with
  | 'T' :: rest | 't' :: rest | ' ' :: rest => some rest
  | _ => none

/-- The strict reader: fixed widths, an offset with a colon, nothing before or after. -/
def read? (text : String) : Option Instant := do
  let (year, cs) ← scanNumber? 4 4 text.toList
  let cs ← dropPrefix? ['-'] cs
  let (month, cs) ← scanNumber? 2 2 cs
  let cs ← dropPrefix? ['-'] cs
  let (day, cs) ← scanNumber? 2 2 cs
  let cs ← scanSeparator? cs
  let (hour, cs) ← scanNumber? 2 2 cs
  let cs ← dropPrefix? [':'] cs
  let (minute, cs) ← scanNumber? 2 2 cs
  let cs ← dropPrefix? [':'] cs
  let (second, cs) ← scanNumber? 2 2 cs
  let (nanos, cs) ← scanOptionalFraction? cs
  let (offset, cs) ← scanOffset? (dropPrefix? [':']) cs
  if cs.isEmpty then
    let date ← Date.ofParts? year month day
    ofParts? date hour minute second nanos offset
  else none

/-- Colons and blanks, as many as there are. -/
def skipColons (cs : List Char) : Option (List Char) :=
  some (cs.dropWhile fun c => c == ':' || isBlank c)

/-- An offset, or the letters `UTC` in either case. -/
def scanLooseOffset? (cs : List Char) : Option (Int × List Char) :=
  if (cs.take 3).map Char.toUpper = ['U', 'T', 'C'] then some (0, cs.drop 3)
  else scanOffset? skipColons cs

/-- The tolerant reader of reports: numbers unpadded if need be, blanks around them. -/
def readLoose? (text : String) : Option Instant := do
  let (date, cs) ← Date.scanLoose? text.toList
  let cs ← scanSeparator? cs
  let (hour, cs) ← Date.scanShort? cs
  let cs ← Date.scanMark? ':' cs
  let (minute, cs) ← Date.scanShort? cs
  let cs ← Date.scanMark? ':' cs
  let (second, cs) ← Date.scanShort? cs
  let (nanos, cs) ← scanOptionalFraction? cs
  let (offset, cs) ← scanLooseOffset? (trimLeft cs)
  if cs.all isBlank then ofParts? date hour minute second nanos offset else none

end Instant

end JobRelay
