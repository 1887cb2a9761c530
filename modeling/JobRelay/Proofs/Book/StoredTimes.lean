import JobRelay.Proofs.Calendar.Clock
import JobRelay.Proofs.Money.Payable
import JobRelay.Text.Utf8

/-! # Times in tables

Tables keep times as texts, and searches and listings compare nothing but these texts. For times of
the years 0 to 9999 this is sound: the texts are of one length, they compare as the times do, by
their characters as well as by their bytes, and each is read back as its time, cut to milliseconds.
-/

namespace JobRelay

/-! ## ASCII texts -/

/-- Characters of one byte. -/
def IsAscii (cs : List Char) : Prop :=
  ∀ c ∈ cs, c.toNat < 128

section Ascii

variable {xs ys : List Char}

private theorem toNat_toUInt8 {c : Char} (ascii : c.toNat < 128) : c.toUInt8.toNat = c.toNat :=
  (UInt32.toNat_toUInt8 _).trans (Nat.mod_eq_of_lt (ascii.trans (by decide)))

/-- The bytes of an ASCII text are its characters. -/
private theorem utf8_of_isAscii {text : String} (ascii : IsAscii text.toList) :
    utf8 text = text.toList.map Char.toUInt8 := by
  have each : text.toList.flatMap String.utf8EncodeChar =
      text.toList.flatMap fun c => [c.toUInt8] :=
    List.flatMap_congr fun c member => String.utf8EncodeChar_eq_singleton
      (Char.utf8Size_eq_one_iff.mpr (Nat.le_of_lt_succ (ascii c member)))
  calc
    utf8 text = text.toByteArray.data.toList := utf8_eq text
    _ = (String.ofList text.toList).toByteArray.data.toList := by rw [String.ofList_toList]
    _ = text.toList.flatMap String.utf8EncodeChar := by
      rw [String.toByteArray_ofList, List.utf8Encode, List.toList_data_toByteArray]
    _ = text.toList.map Char.toUInt8 := by rw [each, List.map_eq_flatMap]

private theorem map_toUInt8_lt_iff (first : IsAscii xs) (second : IsAscii ys) :
    xs.map Char.toUInt8 < ys.map Char.toUInt8 ↔ xs < ys := by
  induction xs generalizing ys with
  | nil => cases ys <;> simp
  | cons x xs ih =>
    cases ys with
    | nil => simp
    | cons y ys =>
      obtain ⟨one, first⟩ := List.forall_mem_cons.mp first
      obtain ⟨other, second⟩ := List.forall_mem_cons.mp second
      have less : x.toUInt8 < y.toUInt8 ↔ x < y := by
        rw [UInt8.lt_iff_toNat_lt, toNat_toUInt8 one, toNat_toUInt8 other]
        rfl
      have same : x.toUInt8 = y.toUInt8 ↔ x = y := by
        rw [← UInt8.toNat_inj, toNat_toUInt8 one, toNat_toUInt8 other, Char.toNat_inj]
      simp only [List.map_cons, List.cons_lt_cons_iff, less, same, ih first second]

private theorem length_utf8 {text : String} (ascii : IsAscii text.toList) :
    (utf8 text).length = text.length := by
  rw [utf8_of_isAscii ascii, List.length_map, String.length_toList]

private theorem utf8_lt_iff {text other : String} (first : IsAscii text.toList)
    (second : IsAscii other.toList) : utf8 text < utf8 other ↔ text < other := by
  rw [utf8_of_isAscii first, utf8_of_isAscii second, map_toUInt8_lt_iff first second,
    String.lt_iff_toList_lt]

end Ascii

namespace Instant

open Text

variable {t : Instant}

/-! ## The texts -/

/-- A field of digits, its mark and what follows. -/
private theorem isAscii_field (width n : Nat) {mark : Char} {rest : List Char}
    (ascii : mark.toNat < 128) (after : IsAscii rest) :
    IsAscii (padded width n ++ mark :: rest) := by
  intro c member
  rcases List.mem_append.mp member with digit | behind
  · have range := Char.isDigit_iff_toNat.mp (isDigit_of_mem_padded digit)
    exact range.2.trans_lt (by decide)
  · rcases List.mem_cons.mp behind with rfl | later
    · exact ascii
    · exact after c later

private theorem isAscii_laidOut (year month day hour minute second millis : Nat) :
    IsAscii (laidOut year month day hour minute second millis) := by
  have nothing : IsAscii [] := List.forall_mem_nil _
  unfold laidOut
  -- Seven fields, and each of them is followed by a mark.
  iterate 7 refine isAscii_field _ _ (by decide) ?_
  exact nothing

private theorem Dated.isAscii_stored (dated : t.Dated) : IsAscii t.stored.toList := by
  rw [stored, String.toList_ofList, dated.storedChars_eq]
  exact isAscii_laidOut _ _ _ _ _ _ _

/-- Stored texts are as long as `2026-01-01T00:00:00.000Z`. -/
theorem Dated.length_stored (dated : t.Dated) : t.stored.length = 24 := by
  obtain ⟨year, month, day, hour, minute, second, millis⟩ := dated.fits
  have two {n : Nat} (fits : n < 10 ^ 2) : (padded 2 n).length = 2 := length_padded (by decide) fits
  rw [stored, String.length_ofList, dated.storedChars_eq, laidOut]
  simp only [List.length_append, List.length_cons, List.length_nil, length_padded (by decide) year,
    length_padded (by decide) millis, two month, two day, two hour, two minute, two second]

/-- What is read from a table is a time that a clock shows. -/
theorem onClock_of_readInstant {text : String} (h : Book.readInstant text = .ok t) :
    t.OnClock := by
  rw [Book.readInstant] at h
  split at h
  case h_1 found =>
    cases h
    exact onClock_of_read? found
  case h_2 => cases h

/-- Two times as tables keep them. -/
structure StoredAlike (s t : Instant) : Prop where
  /-- As texts they compare as they do when they are cut to milliseconds. -/
  order : s.stored < t.stored ↔ s.toMillis.before t.toMillis
  /-- So do the bytes of the texts. -/
  bytes : utf8 s.stored < utf8 t.stored ↔ s.toMillis.before t.toMillis
  /-- The texts have equally many characters and equally many bytes. -/
  length : s.stored.length = t.stored.length ∧ (utf8 s.stored).length = (utf8 t.stored).length
  /-- The first text is read back as the first time, cut to milliseconds. -/
  readBack : Book.readInstant s.stored = .ok s.toMillis

/-- Whatever is read from a table is a time that a clock shows. Such times of the years 0 to 9999, in
leap seconds or not, are in order as texts and are read back, both to the millisecond. -/
theorem storedAlike_onClock :
    (∀ text t, Book.readInstant text = .ok t → t.OnClock) ∧
      ∀ s t : Instant, s.OnClock → t.OnClock → 0 ≤ s.date.year ∧ s.date.year ≤ 9999 →
        0 ≤ t.date.year ∧ t.date.year ≤ 9999 → s.StoredAlike t := by
  constructor
  · intro text t read
    exact onClock_of_readInstant read
  · intro s t shown shown' year year'
    have first : s.Dated := dated_iff.mpr ⟨shown, year⟩
    have second : t.Dated := dated_iff.mpr ⟨shown', year'⟩
    have order : s.stored < t.stored ↔ s.toMillis.before t.toMillis := first.stored_lt_iff second
    have characters : s.stored.length = t.stored.length :=
      first.length_stored.trans second.length_stored.symm
    refine ⟨order, ?_, ⟨characters, ?_⟩, Book.readInstant_stored first⟩
    · rw [utf8_lt_iff first.isAscii_stored second.isAscii_stored, order]
    · rw [length_utf8 first.isAscii_stored, length_utf8 second.isAscii_stored, characters]

/-- A leap second that is read where it ends the first half of an hour is kept as the one that ends
June in UTC, before the first second of July. -/
theorem storedAlike_leapSecond :
    let s : Instant := ⟨78796799, 1500900000⟩
    let t : Instant := ⟨78796800, 0⟩
    Book.readInstant "1972-07-01T05:29:60.5009+05:30" = .ok s ∧
      s.stored = "1972-06-30T23:59:60.500Z" ∧ t.stored = "1972-07-01T00:00:00.000Z" ∧
      s.stored < t.stored ∧ Book.readInstant s.stored = .ok ⟨78796799, 1500000000⟩ := by
  intro s t
  have read : Book.readInstant "1972-07-01T05:29:60.5009+05:30" = .ok s := by decide +kernel
  have kept : s.StoredAlike t :=
    storedAlike_onClock.2 s t (storedAlike_onClock.1 _ s read) (by decide) (by decide) (by decide)
  have cut : s.toMillis = ⟨78796799, 1500000000⟩ := by decide
  exact ⟨read, by decide +kernel, by decide +kernel, kept.order.mpr (by decide),
    cut ▸ kept.readBack⟩

end Instant

end JobRelay
