import JobRelay.Calendar.Instant
import JobRelay.Proofs.Calendar.Days

/-! # Stored instants

The stored form of an instant of the years 0 to 9999 reads back as that instant, cut to
milliseconds.
-/

namespace JobRelay

namespace Text

private theorem length_digits_le {width n : Nat} (wide : 0 < width) (fits : n < 10 ^ width) :
    (digits n).length ≤ width :=
  (Nat.length_toDigits_le_iff (by decide) wide).mpr fits

theorem length_padded {width n : Nat} (wide : 0 < width) (fits : n < 10 ^ width) :
    (padded width n).length = width := by
  have short := length_digits_le wide fits
  rw [padded, List.length_append, List.length_replicate]
  omega

/-- A field of fixed width is read back, whatever follows it. -/
private theorem scanNumber?_padded {width n : Nat} (wide : 0 < width) (fits : n < 10 ^ width)
    (rest : List Char) :
    scanNumber? width width (padded width n ++ rest) = some (n, rest) := by
  have size := length_padded wide fits
  rw [scanNumber?, List.take_left' size, takeWhile_padded, size, if_neg (Nat.lt_irrefl width),
    ofDigits_padded, List.drop_left' size]

end Text

namespace Instant

open Text

/-- Fields of fixed width, laid out as stored instants are. -/
def laidOut (year month day hour minute second millis : Nat) : List Char :=
  padded 4 year ++ '-' :: (padded 2 month ++ '-' :: (padded 2 day ++ 'T' :: (padded 2 hour ++
    ':' :: (padded 2 minute ++ ':' :: (padded 2 second ++ '.' :: (padded 3 millis ++ ['Z']))))))

private theorem scanFraction?_padded {millis : Nat} (fits : millis < 10 ^ 3) :
    scanFraction? (padded 3 millis ++ ['Z']) = some (millis * 10 ^ 6, ['Z']) := by
  have size := length_padded (by decide) fits
  have run : ((padded 3 millis ++ ['Z']).take 9).takeWhile Char.isDigit = padded 3 millis := by
    rw [List.take_of_length_le (by simp [size]),
      List.takeWhile_append_of_pos fun _ => isDigit_of_mem_padded]
    exact List.append_nil _
  have filled : (padded 3 millis).isEmpty = false := by
    rw [List.isEmpty_eq_false_iff, ← List.length_pos_iff, size]
    decide
  rw [scanFraction?, run, filled, size, List.drop_left' size, ofDigits_padded]
  rfl

private theorem dropPrefix?_mark (mark : Char) (rest : List Char) :
    dropPrefix? [mark] (mark :: rest) = some rest := dropPrefix?_append [mark] rest

private theorem bind_of_eq_some {α β : Type} {x : Option α} {a : α} {f : α → Option β}
    (h : x = some a) : (x >>= f) = f a := by
  rw [h]
  rfl

/-- Fields of their widths are read back. -/
private theorem read?_laidOut {year month day hour minute second millis : Nat} (y : year < 10 ^ 4)
    (mo : month < 10 ^ 2) (d : day < 10 ^ 2) (h : hour < 10 ^ 2) (mi : minute < 10 ^ 2)
    (s : second < 10 ^ 2) (ms : millis < 10 ^ 3) :
    read? (String.ofList (laidOut year month day hour minute second millis)) =
      (Date.ofParts? year month day).bind fun date =>
        ofParts? date hour minute second (millis * 10 ^ 6) 0 := by
  have two : 0 < 2 := by decide
  have separator (rest : List Char) : scanSeparator? ('T' :: rest) = some rest := rfl
  have fraction : scanOptionalFraction? ('.' :: (padded 3 millis ++ ['Z'])) =
      some (millis * 10 ^ 6, ['Z']) := scanFraction?_padded ms
  have offset : scanOffset? (dropPrefix? [':']) ['Z'] = some (0, []) := rfl
  rw [read?, String.toList_ofList]
  refine (bind_of_eq_some (scanNumber?_padded (by decide) y _)).trans ?_
  refine (bind_of_eq_some (dropPrefix?_mark '-' _)).trans ?_
  refine (bind_of_eq_some (scanNumber?_padded two mo _)).trans ?_
  refine (bind_of_eq_some (dropPrefix?_mark '-' _)).trans ?_
  refine (bind_of_eq_some (scanNumber?_padded two d _)).trans ?_
  refine (bind_of_eq_some (separator _)).trans ?_
  refine (bind_of_eq_some (scanNumber?_padded two h _)).trans ?_
  refine (bind_of_eq_some (dropPrefix?_mark ':' _)).trans ?_
  refine (bind_of_eq_some (scanNumber?_padded two mi _)).trans ?_
  refine (bind_of_eq_some (dropPrefix?_mark ':' _)).trans ?_
  refine (bind_of_eq_some (scanNumber?_padded two s _)).trans ?_
  refine (bind_of_eq_some fraction).trans ?_
  exact bind_of_eq_some offset

/-! ## Instants of four-digit years -/

/-- An instant of the years 0 to 9999. A leap second ends its minute. -/
structure Dated (t : Instant) : Prop where
  first : -62167219200 ≤ t.seconds
  last : t.seconds ≤ 253402300799
  leap : t.nanos < 1000000000 ∨ t.nanos < 2000000000 ∧ t.seconds % 60 = 59

variable {t : Instant}

instance : Decidable t.Dated :=
  decidable_of_iff (-62167219200 ≤ t.seconds ∧ t.seconds ≤ 253402300799 ∧
      (t.nanos < 1000000000 ∨ t.nanos < 2000000000 ∧ t.seconds % 60 = 59))
    ⟨fun ⟨first, last, leap⟩ => ⟨first, last, leap⟩,
      fun dated => ⟨dated.first, dated.last, dated.leap⟩⟩

theorem Dated.year (dated : t.Dated) : 0 ≤ t.date.year ∧ t.date.year ≤ 9999 := by
  have first := dated.first
  have last := dated.last
  exact Date.year_ofDays (by omega) (by omega)

/-- The fields of the stored form. -/
theorem Dated.storedChars_eq (dated : t.Dated) :
    t.storedChars = laidOut t.date.year.toNat t.date.month t.date.day (t.secondOfDay / 3600)
      (t.secondOfDay / 60 % 60) (t.secondOfDay % 60 + t.nanos / nanosPerSecond)
      (t.nanos % nanosPerSecond / 1000000) := by
  obtain ⟨low, high⟩ := dated.year
  have year : Date.yearChars t.date.year = padded 4 t.date.year.toNat := by
    rw [Date.yearChars, if_neg (Int.not_lt.mpr low), if_pos high]
    congr 1
    omega
  simp only [storedChars, wholeChars, Date.toChars, year, laidOut, List.append_assoc,
    List.cons_append]

private theorem Dated.ofParts?_date (dated : t.Dated) :
    Date.ofParts? t.date.year.toNat t.date.month t.date.day = some t.date := by
  obtain ⟨low, high⟩ := dated.year
  have there : t.date.InCalendar := Date.inCalendar_ofDays _
  rw [Int.toNat_of_nonneg low, Date.ofParts?, if_pos]
  refine ⟨?_, ?_, there.month.1, there.month.2, there.day.1, there.day.2⟩
  · exact Int.le_trans (by decide) low
  · exact Int.le_trans high (by decide)

/-- Date and time of day make up the instant that they were taken from. -/
private theorem Dated.ofParts?_time (dated : t.Dated) :
    ofParts? t.date (t.secondOfDay / 3600) (t.secondOfDay / 60 % 60)
      (t.secondOfDay % 60 + t.nanos / nanosPerSecond)
      (t.nanos % nanosPerSecond / 1000000 * 10 ^ 6) 0 = some t.toMillis := by
  have days : t.date.toDays = t.seconds / 86400 := Date.toDays_ofDays _
  have second : (t.secondOfDay : Int) = t.seconds % 86400 := by
    unfold secondOfDay
    omega
  have kept : leastSecond ≤ t.seconds ∧ t.seconds ≤ greatestSecond := by
    have least : leastSecond ≤ -62167219200 := by decide +kernel
    have greatest : 253402300799 ≤ greatestSecond := by decide +kernel
    exact ⟨least.trans dated.first, dated.last.trans greatest⟩
  have late : t.nanos / nanosPerSecond = 0 ∨
      t.nanos / nanosPerSecond = 1 ∧ t.secondOfDay % 60 = 59 := by
    have leap := dated.leap
    unfold nanosPerSecond
    omega
  unfold ofParts?
  rw [if_pos (by omega)]
  rcases late with plain | ⟨leap, minuteEnd⟩
  · have nanos : t.nanos % nanosPerSecond / 1000000 * 10 ^ 6 = t.nanos / 1000000 * 1000000 := by
      unfold nanosPerSecond at plain ⊢
      omega
    have seconds : t.date.toDays * 86400 + ((t.secondOfDay / 3600 * 3600 +
        t.secondOfDay / 60 % 60 * 60 + t.secondOfDay % 60 : Nat) : Int) - 0 = t.seconds := by omega
    rw [plain, Nat.add_zero, if_neg (by omega)]
    simp only [seconds, nanos]
    exact if_pos kept
  · have nanos : t.nanos % nanosPerSecond / 1000000 * 10 ^ 6 + nanosPerSecond =
        t.nanos / 1000000 * 1000000 := by
      unfold nanosPerSecond at leap ⊢
      omega
    have seconds : t.date.toDays * 86400 + ((t.secondOfDay / 3600 * 3600 +
        t.secondOfDay / 60 % 60 * 60 + 59 : Nat) : Int) - 0 = t.seconds := by omega
    rw [leap, minuteEnd, if_pos rfl]
    simp only [seconds, nanos]
    exact if_pos kept

/-- The fields of the stored form have the widths that they are written in. -/
theorem Dated.fits (dated : t.Dated) :
    t.date.year.toNat < 10 ^ 4 ∧ t.date.month < 10 ^ 2 ∧ t.date.day < 10 ^ 2 ∧
      t.secondOfDay / 3600 < 10 ^ 2 ∧ t.secondOfDay / 60 % 60 < 10 ^ 2 ∧
      t.secondOfDay % 60 + t.nanos / nanosPerSecond < 10 ^ 2 ∧
      t.nanos % nanosPerSecond / 1000000 < 10 ^ 3 := by
  obtain ⟨low, high⟩ := dated.year
  have there : t.date.InCalendar := Date.inCalendar_ofDays _
  have month := there.month.2
  have day : t.date.day ≤ 31 := there.day.2.trans (Date.daysInMonth_le _ _)
  have leap := dated.leap
  have time : t.secondOfDay < 86400 := by
    unfold secondOfDay
    omega
  unfold nanosPerSecond
  omega

/-- A stored instant reads back, cut to milliseconds. -/
theorem Dated.read?_stored (dated : t.Dated) : read? t.stored = some t.toMillis := by
  obtain ⟨year, month, day, hour, minute, second, millis⟩ := dated.fits
  rw [stored, dated.storedChars_eq, read?_laidOut year month day hour minute second millis,
    dated.ofParts?_date]
  exact dated.ofParts?_time

end Instant

end JobRelay
