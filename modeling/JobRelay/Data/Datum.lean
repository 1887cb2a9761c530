import JobRelay.Text.Digits

/-! # Data

The values that data formats carry: bodies of requests and answers, and configuration files. A
reader that works from the front also leaves marks: `broken` stands where a text stops being well
formed, and `garbled` for a well-formed literal without a value, such as a number beyond range.
-/

namespace JobRelay

/-- A value of a data format. -/
inductive Datum where
  | null
  | flag (value : Bool)
  | whole (value : Int)
  /-- A double by its sixty-four bits. -/
  | real (bits : UInt64)
  | text (value : String)
  | list (items : List Datum)
  | record (fields : List (String × Datum))
  /-- A literal that has the right form and no value. -/
  | garbled
  /-- The point where a text stops being well formed; nothing follows it. -/
  | broken
deriving Repr, Inhabited

namespace Datum

def ofText? : Option String → Datum
  | some value => text value
  | none => null

def ofWhole? : Option Int → Datum
  | some value => whole value
  | none => null

/-- The field of a record, the last one if it is repeated. -/
def field? (name : String) : Datum → Option Datum
  | record fields => (fields.reverse.find? fun f => f.1 == name).map (·.2)
  | _ => none

mutual

/-- Whether the value was read to its end. -/
def isSound : Datum → Bool
  | broken => false
  | list items => areSound items
  | record fields => fieldsAreSound fields
  | _ => true

/-- Whether every item was read to its end. -/
def areSound : List Datum → Bool
  | [] => true
  | item :: items => isSound item && areSound items

/-- Whether every field was read to its end. -/
def fieldsAreSound : List (String × Datum) → Bool
  | [] => true
  | (_, value) :: fields => isSound value && fieldsAreSound fields

end

end Datum

end JobRelay
