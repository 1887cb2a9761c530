import JobRelay.Data.Datum
import JobRelay.Decimal.Shortest

/-! # Printing TOML

A record of records is printed as tables: the scalars of a table under its header, then its inner
tables, with a blank line between tables. What is missing is left out. A text is put in quotes as
it is if it can be, else between apostrophes, else over several lines, and is escaped only if none
of these can hold it.
-/

namespace JobRelay.Toml

/-- The longest run of a character. -/
def longestRun (c : Char) (cs : List Char) : Nat :=
  (cs.foldl (fun (longest, run) d =>
    if d = c then (max longest (run + 1), run + 1) else (longest, 0)) (0, 0)).1

/-- Whether a character is written only as an escape: a control character that is neither a tab nor
a line end. -/
def needsCode (c : Char) : Bool :=
  (c.toNat < 0x20 && c != '\t' && c != '\n') || c.toNat == 0x7f

def upperHexDigit (n : Nat) : Char :=
  if n < 10 then Char.ofNat (48 + n) else Char.ofNat (55 + n)

/-- A character of a text in quotes. `isLong` is a text over several lines; `run` counts the quotes
just before. -/
def escapeChar (isLong : Bool) (run : Nat) (c : Char) : List Char :=
  if c = '"' then (if isLong && run < 2 then ['"'] else ['\\', '"'])
  else if c = '\\' then ['\\', '\\']
  else if c.toNat = 8 then ['\\', 'b']
  else if c = '\t' then ['\\', 't']
  else if c = '\n' then (if isLong then ['\n'] else ['\\', 'n'])
  else if c.toNat = 12 then ['\\', 'f']
  else if c = '\r' then ['\\', 'r']
  else if needsCode c then
    ['\\', 'u', '0', '0', upperHexDigit (c.toNat / 16), upperHexDigit (c.toNat % 16)]
  else [c]

/-- The characters of a text in quotes; an escaped quote ends a run. -/
def escapeChars (isLong : Bool) (run : Nat) : List Char → List Char
  | [] => []
  | c :: cs =>
    let written := escapeChar isLong run c
    written ++ escapeChars isLong (if written = ['"'] then run + 1 else 0) cs

def basicText (cs : List Char) : List Char :=
  '"' :: escapeChars false 0 cs ++ ['"']

def longText (cs : List Char) : List Char :=
  "\"\"\"\n".toList ++ escapeChars true 0 cs ++ "\"\"\"".toList

/-- A text in the plainest spelling that holds it. -/
def textChars (cs : List Char) : List Char :=
  let coded := cs.any needsCode
  let slashed := cs.contains '\\'
  let lines := cs.contains '\n'
  if !coded && !slashed && !cs.contains '"' && !lines then basicText cs
  else if !coded && !cs.contains '\'' && !lines then '\'' :: cs ++ ['\'']
  else if !coded && !slashed && longestRun '"' cs ≤ 2 then longText cs
  else if !coded && longestRun '\'' cs ≤ 2 then "'''\n".toList ++ cs ++ "'''".toList
  else if lines then longText cs
  else basicText cs

def realText (bits : UInt64) : String :=
  match Decimal.Double.ofBits bits with
  | .notANumber => if bits < 0x8000000000000000 then "nan" else "-nan"
  | .infinite negative => if negative then "-inf" else "inf"
  | .finite _ _ _ =>
    let s := Decimal.format bits
    if s.toList.contains '.' then s else s ++ ".0"

/-- A scalar; none for a table and for what is missing. -/
def scalarText? : Datum → Option String
  | .flag b => some (if b then "true" else "false")
  | .whole n => some (toString n)
  | .real bits => some (realText bits)
  | .text s => some (String.ofList (textChars s.toList))
  | _ => none

/-- The lines of the scalars of a table. -/
def scalarLines (fields : List (String × Datum)) : List String :=
  fields.filterMap fun (name, d) => (scalarText? d).map fun s => name ++ " = " ++ s ++ "\n"

mutual

/-- The tables inside a table, each with the header that leads to it. -/
def tableBlocks (path : List String) : List (String × Datum) → List String
  | [] => []
  | (name, d) :: fields => tableBlock (path ++ [name]) d ++ tableBlocks path fields

/-- A table under its header and the tables inside it. -/
def tableBlock (path : List String) : Datum → List String
  | .record fields =>
    ("[" ++ ".".intercalate path ++ "]\n" ++ "".intercalate (scalarLines fields)) ::
      tableBlocks path fields
  | _ => []

end

/-- A record of tables as a configuration text. -/
def print : Datum → String
  | .record fields =>
    let top := scalarLines fields
    let blocks := tableBlocks [] fields
    "\n".intercalate (if top.isEmpty then blocks else "".intercalate top :: blocks)
  | _ => ""

end JobRelay.Toml
