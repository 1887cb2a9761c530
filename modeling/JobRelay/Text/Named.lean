/-! # Finite types with written names

A kind that is stored, sent and printed by name lists its values in declared order and gives each
a name. Reading is a search among the names, so only an exact name is read.
-/

namespace JobRelay

/-- A finite kind whose values have written names. -/
class Named (α : Type) where
  /-- The values in declared order. -/
  all : List α
  /-- The written name of a value. -/
  name : α → String

namespace Named

variable {α : Type} [Named α]

/-- The value written `text`, which has to be one of the names exactly. -/
def ofName? (text : String) : Option α :=
  (all : List α).find? fun value => name value == text

theorem name_of_ofName? {text : String} {value : α} (h : ofName? text = some value) :
    name value = text := by
  simpa using List.find?_some h

end Named

end JobRelay
