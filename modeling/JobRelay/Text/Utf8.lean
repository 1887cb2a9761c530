/-! # Texts as bytes

Every text has one sequence of bytes, and not every sequence of bytes is a text.
-/

namespace JobRelay

/-- The bytes of a text. -/
def utf8 (text : String) : List UInt8 :=
  text.toUTF8.toList

/-- Bytes are listed one after the other. -/
private theorem toList_loop (bytes : ByteArray) (i : Nat) (front : List UInt8) :
    ByteArray.toList.loop bytes i front = front.reverse ++ bytes.data.toList.drop i := by
  fun_induction ByteArray.toList.loop bytes i front with
  | case1 i front inside ih =>
    have size : i < bytes.data.toList.length := by simpa using inside
    have read : bytes.get! i = bytes.data.toList[i] := getElem!_pos bytes.data i inside
    rw [ih, List.drop_eq_getElem_cons size, List.reverse_cons, List.append_assoc, read]
    rfl
  | case2 i front outside =>
    have size : bytes.data.toList.length ≤ i := by simpa using outside
    rw [List.drop_of_length_le size, List.append_nil]

theorem utf8_eq (text : String) : utf8 text = text.toByteArray.data.toList :=
  toList_loop _ 0 []

theorem utf8_append (front back : String) : utf8 (front ++ back) = utf8 front ++ utf8 back := by
  rw [utf8_eq, utf8_eq, utf8_eq, String.toByteArray_append, ByteArray.toList_data_append]

theorem utf8_inj {text other : String} : utf8 text = utf8 other ↔ text = other := by
  rw [utf8_eq, utf8_eq, Array.toList_inj, ← ByteArray.ext_iff, String.toByteArray_inj]

/-- The text of some bytes, if they are one. -/
def ofUtf8? (bytes : List UInt8) : Option String :=
  String.fromUTF8? bytes.toByteArray

end JobRelay
