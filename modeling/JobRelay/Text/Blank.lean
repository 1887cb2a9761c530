/-! # Blank characters and trimming

Blank means the Unicode property White_Space. Trimming removes blanks from both ends and nothing
inside.
-/

namespace JobRelay.Text

/-- The characters with the property White_Space. -/
def isBlank (c : Char) : Bool :=
  let n := c.toNat
  (0x09 ≤ n && n ≤ 0x0d) || n == 0x20 || n == 0x85 || n == 0xa0 || n == 0x1680 ||
    (0x2000 ≤ n && n ≤ 0x200a) || n == 0x2028 || n == 0x2029 || n == 0x202f || n == 0x205f ||
    n == 0x3000

def trimLeft (cs : List Char) : List Char :=
  cs.dropWhile isBlank

def trimRight (cs : List Char) : List Char :=
  (cs.reverse.dropWhile isBlank).reverse

def trim (text : String) : String :=
  String.ofList (trimRight (trimLeft text.toList))

/-- Whether nothing but blanks is written. -/
def isBlankText (text : String) : Bool :=
  text.toList.all isBlank

/-- The trimmed text, if anything is left of it. -/
def nonBlank? (text : String) : Option String :=
  if trim text = "" then none else some (trim text)

/-- The text after a leading `mark`, or the text itself when it does not start with it. -/
def dropPrefix? (mark text : List Char) : Option (List Char) :=
  match mark, text with
  | [], rest => some rest
  | _ :: _, [] => none
  | m :: mark, c :: text => if m = c then dropPrefix? mark text else none

private theorem dropWhile_isBlank {cs : List Char} (solid : ∀ c ∈ cs, isBlank c = false) :
    cs.dropWhile isBlank = cs := by
  cases cs with
  | nil => rfl
  | cons c rest =>
    rw [List.dropWhile_cons, solid c List.mem_cons_self]
    rfl

/-- There is nothing to trim where nothing is blank. -/
theorem trim_eq_self {text : String} (solid : ∀ c ∈ text.toList, isBlank c = false) :
    trim text = text := by
  rw [trim, trimLeft, dropWhile_isBlank solid, trimRight, dropWhile_isBlank (by simpa using solid),
    List.reverse_reverse, String.ofList_toList]

/-- What is trimmed away is blank. -/
theorem exists_trim (text : String) :
    ∃ before after, (∀ c ∈ before ++ after, isBlank c) ∧
      text.toList = before ++ (trim text).toList ++ after := by
  let rest := trimLeft text.toList
  have front : text.toList.takeWhile isBlank ++ rest = text.toList := List.takeWhile_append_dropWhile
  have back : trimRight rest ++ (rest.reverse.takeWhile isBlank).reverse = rest := by
    rw [trimRight, ← List.reverse_append, List.takeWhile_append_dropWhile, List.reverse_reverse]
  refine ⟨text.toList.takeWhile isBlank, (rest.reverse.takeWhile isBlank).reverse, ?_, ?_⟩
  · intro c member
    rcases List.mem_append.mp member with before | after
    · exact List.all_eq_true.mp List.all_takeWhile c before
    · exact List.all_eq_true.mp List.all_takeWhile c (List.mem_reverse.mp after)
  · rw [trim, String.toList_ofList, List.append_assoc, back, front]

/-- Blanks around solid characters are what is trimmed away. -/
theorem trim_of_solid {text : String} {before solid after : List Char}
    (chars : text.toList = before ++ solid ++ after) (blank : ∀ c ∈ before ++ after, isBlank c)
    (dense : ∀ c ∈ solid, isBlank c = false) : (trim text).toList = solid := by
  obtain ⟨front, back⟩ := List.forall_mem_append.mp blank
  have left : trimLeft text.toList = trimLeft (solid ++ after) := by
    rw [chars, List.append_assoc, trimLeft, List.dropWhile_append_of_pos front, trimLeft]
  have right : trimRight (solid ++ after) = solid := by
    rw [trimRight, List.reverse_append, List.dropWhile_append_of_pos (by simpa using back),
      dropWhile_isBlank (by simpa using dense), List.reverse_reverse]
  rw [trim, String.toList_ofList, left]
  cases solid with
  | nil =>
    have none : trimLeft after = [] := by
      rw [trimLeft, ← List.append_nil after, List.dropWhile_append_of_pos back, List.dropWhile_nil]
    rw [List.nil_append, none]
    rfl
  | cons c rest =>
    have kept : trimLeft (c :: rest ++ after) = c :: rest ++ after := by
      rw [List.cons_append, trimLeft, List.dropWhile_cons, dense c List.mem_cons_self]
      rfl
    rw [kept, right]

theorem nonBlank?_eq_some_iff {text trimmed : String} :
    nonBlank? text = some trimmed ↔ trim text ≠ "" ∧ trimmed = trim text := by
  unfold nonBlank?
  split
  · rename_i blank
    simp [blank]
  · rename_i something
    simp [something, eq_comm]

theorem dropPrefix?_append (mark rest : List Char) :
    dropPrefix? mark (mark ++ rest) = some rest := by
  induction mark with
  | nil => cases rest <;> rfl
  | cons m mark ih => simp [dropPrefix?, ih]

theorem eq_append_of_dropPrefix? {mark text rest : List Char}
    (h : dropPrefix? mark text = some rest) : text = mark ++ rest := by
  induction mark generalizing text with
  | nil => cases text <;> simp_all [dropPrefix?]
  | cons m mark ih =>
    cases text with
    | nil => simp [dropPrefix?] at h
    | cons c text =>
      by_cases same : m = c
      · subst same
        simp only [dropPrefix?, if_true] at h
        simp [ih h]
      · simp [dropPrefix?, same] at h

end JobRelay.Text
