import JobRelay.Data.Datum
import JobRelay.Decimal.Shortest

/-! # Printing JSON

Values are printed on one line without blanks, or over several lines with two blanks for each
level. Quotes, backslashes and control characters are escaped, everything else stands for itself.
-/

namespace JobRelay.Json

def hexDigit (n : Nat) : Char :=
  if n < 10 then Char.ofNat (48 + n) else Char.ofNat (87 + n)

def escape (c : Char) : List Char :=
  if c = '"' then ['\\', '"']
  else if c = '\\' then ['\\', '\\']
  else if c.toNat = 8 then ['\\', 'b']
  else if c.toNat = 9 then ['\\', 't']
  else if c.toNat = 10 then ['\\', 'n']
  else if c.toNat = 12 then ['\\', 'f']
  else if c.toNat = 13 then ['\\', 'r']
  else if c.toNat < 32 then
    ['\\', 'u', '0', '0', hexDigit (c.toNat / 16), hexDigit (c.toNat % 16)]
  else [c]

def quote (s : String) : String :=
  String.ofList ('"' :: s.toList.flatMap escape ++ ['"'])

/-- A double, with a fraction even if it is whole. -/
def realText (bits : UInt64) : String :=
  match Decimal.Double.ofBits bits with
  | .finite _ _ _ =>
    let s := Decimal.format bits
    if s.toList.contains '.' then s else s ++ ".0"
  | _ => "null"

mutual

/-- A value on one line. -/
def compact : Datum → String
  | .null | .garbled | .broken => "null"
  | .flag true => "true"
  | .flag false => "false"
  | .whole n => toString n
  | .real bits => realText bits
  | .text s => quote s
  | .list items => "[" ++ ",".intercalate (compactItems items) ++ "]"
  | .record fields => "\x7b" ++ ",".intercalate (compactFields fields) ++ "\x7d"

def compactItems : List Datum → List String
  | [] => []
  | item :: items => compact item :: compactItems items

def compactFields : List (String × Datum) → List String
  | [] => []
  | (name, value) :: fields => (quote name ++ ":" ++ compact value) :: compactFields fields

end

/-- The blanks at the start of a line. -/
def indent (level : Nat) : String :=
  String.ofList (List.replicate (2 * level) ' ')

/-- Items between brackets, one on each line. -/
def spread (opening closing : String) (level : Nat) (items : List String) : String :=
  if items.isEmpty then opening ++ closing
  else
    opening ++ "\n" ++ ",\n".intercalate (items.map (indent (level + 1) ++ ·)) ++ "\n" ++
      indent level ++ closing

mutual

/-- A value over several lines, at a level of nesting. -/
def prettyAt (level : Nat) : Datum → String
  | .list items => spread "[" "]" level (prettyItems (level + 1) items)
  | .record fields => spread "\x7b" "\x7d" level (prettyFields (level + 1) fields)
  | d => compact d

def prettyItems (level : Nat) : List Datum → List String
  | [] => []
  | item :: items => prettyAt level item :: prettyItems level items

def prettyFields (level : Nat) : List (String × Datum) → List String
  | [] => []
  | (name, value) :: fields =>
    (quote name ++ ": " ++ prettyAt level value) :: prettyFields level fields

end

def pretty (d : Datum) : String :=
  prettyAt 0 d

end JobRelay.Json
