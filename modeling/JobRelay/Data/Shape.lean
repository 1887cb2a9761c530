import JobRelay.Calendar.Instant
import JobRelay.Data.Json.Reader
import JobRelay.Text.Named

/-! # Shapes of data

A shape reads a value as a domain type. A text may be malformed or may be well formed and of the
wrong shape; the fault that comes first from the front is the one reported.

A record is written as its named fields, of which unknown ones are passed over and none may come
twice, or as a list of its fields in declared order.
-/

namespace JobRelay

/-- Why a value is not of a shape. -/
inductive Fault where
  /-- The text stops being well formed. -/
  | malformed
  /-- The value is well formed and does not fit. -/
  | unsuitable
deriving DecidableEq, Repr

/-- A reader of values. -/
abbrev Shape (α : Type) := Datum → Except Fault α

namespace Shape

variable {α : Type}

/-- The fault of a value that a shape does not take. -/
def misfit : Datum → Fault
  | .broken | .garbled => .malformed
  | _ => .unsuitable

/-- A value that passes a test. -/
def require (value : Option α) : Except Fault α :=
  match value with
  | some a => .ok a
  | none => .error .unsuitable

def text : Shape String
  | .text s => .ok s
  | d => .error (misfit d)

def flag : Shape Bool
  | .flag b => .ok b
  | d => .error (misfit d)

def int64 : Shape Int
  | .whole n => if Text.fitsInt64 n then .ok n else .error .unsuitable
  | d => .error (misfit d)

/-- A whole number that fits an unsigned field of the given number of bits. -/
def unsigned (bits : Nat) : Shape Nat
  | .whole n => if 0 ≤ n ∧ n < Nat.pow 2 bits then .ok n.toNat else .error .unsuitable
  | d => .error (misfit d)

/-- The double nearest to a whole number below 2⁶⁴ in size. -/
def doubleOfWhole (n : Int) : UInt64 :=
  let f := (UInt64.ofNat n.natAbs).toFloat
  (if n < 0 then -f else f).toBits

/-- A double by its bits; a whole number stands for the nearest one. -/
def real : Shape UInt64
  | .real bits => .ok bits
  | .whole n =>
    if Text.minInt64 ≤ n ∧ n < Nat.pow 2 64 then .ok (doubleOfWhole n) else .error .unsuitable
  | d => .error (misfit d)

def optional (shape : Shape α) : Shape (Option α)
  | .null => .ok none
  | d => (shape d).map some

def items (shape : Shape α) : List Datum → Except Fault (List α)
  | [] => .ok []
  | item :: rest => do
    let first ← shape item
    let others ← items shape rest
    return first :: others

def listOf (shape : Shape α) : Shape (List α)
  | .list ds => items shape ds
  | d => .error (misfit d)

/-- A text read by a partial reader. -/
def textAs (read? : String → Option α) : Shape α := fun d => do
  let s ← text d
  require (read? s)

/-- A name of a finite kind, which may also be written as a record of that name with nothing in
it. Other values are no form of a name at all. -/
def named [Named α] : Shape α
  | .text s => require (Named.ofName? s)
  | .record ((name, value) :: rest) => do
    if !value.isSound && name.isEmpty then throw .malformed
    let chosen ← require (Named.ofName? name : Option α)
    match value with
    | .null => if rest.isEmpty then return chosen else throw .malformed
    | d => throw (misfit d)
  | _ => .error .malformed

/-- Whether a field may be left out. -/
inductive Presence where
  /-- It has to be there. -/
  | always
  /-- It may be left out of a record and not of a list. -/
  | inLists
  /-- It may be left out. -/
  | never
deriving DecidableEq

/-- A field of a record: its name, the test of its value and whether it is needed. -/
structure Field where
  name : String
  check : Datum → Except Fault Unit
  needed : Presence

def Field.of (name : String) (shape : Shape α) (needed : Presence := .never) : Field :=
  ⟨name, fun d => (shape d).map fun _ => (), needed⟩

/-- Known fields of a record in the order of the text, each tested and none twice. -/
def knownFields (known : List Field) (seen : List (String × Datum)) :
    List (String × Datum) → Except Fault (List (String × Datum))
  | [] => .ok seen
  | (name, value) :: rest =>
    match value with
    | .broken =>
      -- A name that is read and repeated is found before the value is looked at.
      .error (if seen.any (·.1 == name) then .unsuitable else .malformed)
    | _ =>
      match known.find? (·.name == name) with
      | none => if value.isSound then knownFields known seen rest else .error .malformed
      | some field =>
        if seen.any (·.1 == name) then .error .unsuitable
        else do
          field.check value
          knownFields known (seen ++ [(name, value)]) rest

/-- The items of a list as fields in declared order. -/
def placedFields (known : List Field) : List Datum → Except Fault (List (String × Datum))
  | [] => if known.any (·.needed != .never) then .error .unsuitable else .ok []
  | item :: items =>
    match known with
    | [] => .error .malformed
    | field :: known => do
      field.check item
      let rest ← placedFields known items
      return (field.name, item) :: rest

/-- The known fields of a record or of a list. -/
def fields (known : List Field) : Shape (List (String × Datum))
  | .record fs => do
    let found ← knownFields known [] fs
    if known.any fun f => f.needed == .always && !found.any (·.1 == f.name) then
      throw .unsuitable
    return found
  | .list ds => placedFields known ds
  | d => .error (misfit d)

/-- The value of a field, or what stands for a field left out. -/
def get (found : List (String × Datum)) (name : String) (shape : Shape α) (absent : α) :
    Except Fault α :=
  match found.find? (·.1 == name) with
  | some (_, value) => shape value
  | none => .ok absent

/-- The value of a field that has to be there. -/
def need (found : List (String × Datum)) (name : String) (shape : Shape α) : Except Fault α :=
  match found.find? (·.1 == name) with
  | some (_, value) => shape value
  | none => .error .unsuitable

/-- Reads a JSON text as a shape; anything after the value is a fault. -/
def readJson (shape : Shape α) (bytes : List UInt8) : Except Fault α := do
  let (d, isWhole) := Json.read bytes
  let value ← shape d
  if isWhole then return value else throw .malformed

end Shape

end JobRelay
