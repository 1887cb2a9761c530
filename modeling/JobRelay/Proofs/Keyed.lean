import Mathlib.Data.List.Nodup

/-! # Tables that are looked up by a key

Jobs, payment records, email hashes and the callers of the rate limit are all kept alike: a row is
found under its key, is changed where it stands, and is added only if none stands there.
-/

namespace JobRelay

variable {α β : Type} {key : α → String} {rows others : List α}

private theorem find?_key_cons (row : α) (rows : List α) (k : String) :
    (row :: rows).find? (key · == k) =
      if key row = k then some row else rows.find? (key · == k) := by
  by_cases here : key row = k <;> simp [here]

/-- In a table without repeated keys every row is found under its own. -/
theorem find?_of_mem (keyed : (rows.map key).Nodup) {row : α} (member : row ∈ rows) :
    rows.find? (key · == key row) = some row := by
  obtain ⟨other, found⟩ : ∃ other, rows.find? (key · == key row) = some other := by
    rw [← Option.isSome_iff_exists, List.find?_isSome]
    exact ⟨row, member, beq_self_eq_true _⟩
  have shared : key other = key row := by simpa using List.find?_some found
  rw [found, List.inj_on_of_nodup_map keyed (List.mem_of_find?_eq_some found) member shared]

/-- Tables with the same rows under the same keys hold the same rows. -/
theorem perm_of_find? (keyed : (rows.map key).Nodup) (otherKeyed : (others.map key).Nodup)
    (same : ∀ k, rows.find? (key · == k) = others.find? (key · == k)) : rows.Perm others := by
  have found {rows : List α} (keyed : (rows.map key).Nodup) (row : α) :
      row ∈ rows ↔ rows.find? (key · == key row) = some row :=
    ⟨find?_of_mem keyed, List.mem_of_find?_eq_some⟩
  rw [List.perm_ext_iff_of_nodup keyed.of_map otherKeyed.of_map]
  intro row
  rw [found keyed, found otherKeyed, same]

/-! ## Changing rows -/

/-- The rows with those under a key changed. -/
def changedUnder (key : α → String) (k : String) (change : α → α) (rows : List α) : List α :=
  rows.map fun row => if key row = k then change row else row

variable {k : String} {change : α → α}

/-- What a change keeps of the rows that it reaches is kept of all of them. -/
theorem map_changedUnder {read : α → β} (keeps : ∀ row, key row = k → read (change row) = read row) :
    (changedUnder key k change rows).map read = rows.map read := by
  rw [changedUnder, List.map_map]
  apply List.map_congr_left
  intro row _
  by_cases here : key row = k
  · rw [Function.comp_apply, if_pos here, keeps row here]
  · rw [Function.comp_apply, if_neg here]

theorem find?_changedUnder (keeps : ∀ row, key row = k → key (change row) = k) (other : String) :
    (changedUnder key k change rows).find? (key · == other) =
      if other = k then (rows.find? (key · == other)).map change
      else rows.find? (key · == other) := by
  induction rows with
  | nil => simp [changedUnder]
  | cons row rest ih =>
    rw [changedUnder, List.map_cons, find?_key_cons, ← changedUnder, ih, find?_key_cons]
    by_cases here : key row = k
    · rw [if_pos here, keeps row here, here]
      by_cases asked : other = k
      · simp [asked]
      · simp [asked, Ne.symm asked]
    · rw [if_neg here]
      by_cases found : key row = other
      · simp [found, show other ≠ k from found ▸ here]
      · simp [found]

/-! ## Changing a row or adding it -/

/-- The rows with the one under the key of a new one changed, or else with the new one added. -/
def putUnder (key : α → String) (fresh : α) (change : α → α) (rows : List α) : List α :=
  if rows.any (key · == key fresh) then changedUnder key (key fresh) change rows
  else rows ++ [fresh]

variable {fresh : α}

theorem find?_putUnder (keeps : ∀ row, key row = key fresh → key (change row) = key fresh)
    (other : String) :
    (putUnder key fresh change rows).find? (key · == other) =
      if other = key fresh then some ((rows.find? (key · == other)).elim fresh change)
      else rows.find? (key · == other) := by
  unfold putUnder
  split
  · rename_i known
    rw [find?_changedUnder keeps]
    by_cases here : other = key fresh
    · subst here
      obtain ⟨row, found⟩ := Option.isSome_iff_exists.mp
        ((List.find?_isSome.trans List.any_eq_true.symm).mpr known)
      simp [found]
    · rw [if_neg here, if_neg here]
  · rename_i unknown
    rw [List.find?_append]
    by_cases here : other = key fresh
    · subst here
      have absent : rows.find? (key · == key fresh) = none := by simpa using unknown
      simp [absent]
    · simp [here, Ne.symm here]

/-- A row that is put adds its key, if it is not there. -/
theorem mem_keys_of_putUnder (keeps : ∀ row, key row = key fresh → key (change row) = key fresh)
    {row : α} (present : row ∈ putUnder key fresh change rows) :
    key row = key fresh ∨ key row ∈ rows.map key := by
  unfold putUnder at present
  split at present
  · have listed := List.mem_map_of_mem (f := key) present
    rw [map_changedUnder fun row here => (keeps row here).trans here.symm] at listed
    exact .inr listed
  · rcases List.mem_append.mp present with old | new
    · exact .inr (List.mem_map_of_mem old)
    · exact .inl (congrArg key (List.mem_singleton.mp new))

theorem nodup_putUnder (keyed : (rows.map key).Nodup)
    (keeps : ∀ row, key row = key fresh → key (change row) = key fresh) :
    ((putUnder key fresh change rows).map key).Nodup := by
  unfold putUnder
  split
  · rwa [map_changedUnder fun row here => (keeps row here).trans here.symm]
  · rename_i unknown
    rw [List.map_append]
    have unused : key fresh ∉ rows.map key := by simpa using unknown
    simpa using List.Nodup.concat unused keyed

end JobRelay
