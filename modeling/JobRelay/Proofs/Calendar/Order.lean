import JobRelay.Proofs.Calendar.Stored
import Mathlib.Data.Int.SuccPred
import Mathlib.Data.List.Induction
import Mathlib.Data.String.Basic
import Mathlib.Order.Monotone.Basic

/-! # The order of stored instants

Stored instants of the years 0 to 9999 compare as texts like the instants, cut to milliseconds.
Fields of one width compare like their numbers, and a text is told apart by its first field that
differs. A later month begins after the end of an earlier one, so dates compare like their days.
-/

namespace JobRelay

/-! ## Fields of one width -/

namespace Text

/-- Texts that begin with parts of one length compare like these, or else like what follows. -/
private theorem append_lt_append_iff {xs ys us vs : List Char} (size : xs.length = ys.length) :
    xs ++ us < ys ++ vs ↔ xs < ys ∨ xs = ys ∧ us < vs := by
  induction xs generalizing ys with
  | nil =>
    obtain rfl := List.length_eq_zero_iff.mp size.symm
    simp
  | cons x xs ih =>
    obtain ⟨y, ys, rfl⟩ := List.exists_cons_of_length_eq_add_one size.symm
    have rest : xs ++ us < ys ++ vs ↔ xs < ys ∨ xs = ys ∧ us < vs := ih (by simpa using size)
    simp only [List.cons_append, List.cons_lt_cons_iff, rest, List.cons.injEq]
    tauto

theorem ofDigits_concat (cs : List Char) (c : Char) :
    ofDigits (cs ++ [c]) = 10 * ofDigits cs + digitValue c := by
  rw [ofDigits, List.foldl_append, ofDigits]
  rfl

theorem digitValue_lt_iff {c d : Char} (first : c.isDigit) (second : d.isDigit) :
    (digitValue c < digitValue d ↔ c < d) ∧ digitValue c < 10 := by
  have low : 48 ≤ c.toNat ∧ c.toNat ≤ 57 := Char.isDigit_iff_toNat.mp first
  have high : 48 ≤ d.toNat ∧ d.toNat ≤ 57 := Char.isDigit_iff_toNat.mp second
  have order : c < d ↔ c.toNat < d.toNat := UInt32.lt_iff_toNat_lt
  rw [order, digitValue, digitValue]
  omega

/-- The last digit decides only where the digits before it are the same. -/
private theorem ofDigits_lt {xs ys : List Char} (size : xs.length = ys.length)
    (first : ∀ c ∈ xs, c.isDigit) (second : ∀ c ∈ ys, c.isDigit) (less : xs < ys) :
    ofDigits xs < ofDigits ys := by
  induction xs using List.reverseRecOn generalizing ys with
  | nil =>
    obtain rfl := List.length_eq_zero_iff.mp size.symm
    cases less
  | append_singleton xs x ih =>
    rcases List.eq_nil_or_concat ys with rfl | ⟨ys, y, rfl⟩
    · simp at size
    rw [List.concat_eq_append] at size second less ⊢
    have shorter : xs.length = ys.length := by simpa using size
    obtain ⟨last, small⟩ := digitValue_lt_iff (first x (by simp)) (second y (by simp))
    rw [ofDigits_concat, ofDigits_concat]
    rcases (append_lt_append_iff shorter).mp less with earlier | ⟨rfl, later⟩
    · have fewer := ih shorter (fun c member => first c (List.mem_append_left _ member))
        (fun c member => second c (List.mem_append_left _ member)) earlier
      omega
    · have digit := last.mpr ((List.cons_lt_cons_iff.mp later).resolve_right (by simp))
      omega

/-- Fields of one width compare like their numbers. -/
private theorem padded_lt_padded_iff {width m n : Nat} (wide : 0 < width) (fits : m < 10 ^ width)
    (fits' : n < 10 ^ width) : padded width m < padded width n ↔ m < n := by
  have size : (padded width m).length = (padded width n).length :=
    (length_padded wide fits).trans (length_padded wide fits').symm
  have mono {m n : Nat} (size : (padded width m).length = (padded width n).length)
      (less : padded width m < padded width n) : m < n := by
    simpa only [ofDigits_padded] using ofDigits_lt size (fun _ => isDigit_of_mem_padded)
      (fun _ => isDigit_of_mem_padded) less
  constructor
  · exact mono size
  · intro less
    rcases lt_trichotomy (padded width m) (padded width n) with here | same | other
    · exact here
    · have equal := congrArg ofDigits same
      rw [ofDigits_padded, ofDigits_padded] at equal
      omega
    · have greater := mono size.symm other
      omega

/-- A field in front decides, and what comes after its mark where the fields are the same. -/
private theorem field_lt_iff {width m n : Nat} (wide : 0 < width) (fits : m < 10 ^ width)
    (fits' : n < 10 ^ width) (mark : Char) (us vs : List Char) :
    padded width m ++ mark :: us < padded width n ++ mark :: vs ↔ m < n ∨ m = n ∧ us < vs := by
  have size : (padded width m).length = (padded width n).length :=
    (length_padded wide fits).trans (length_padded wide fits').symm
  have equal : padded width m = padded width n ↔ m = n := by
    constructor
    · intro same
      simpa only [ofDigits_padded] using congrArg ofDigits same
    · rintro rfl
      rfl
  rw [append_lt_append_iff size, padded_lt_padded_iff wide fits fits', equal,
    List.cons_lt_cons_self]

end Text

/-! ## Dates in order -/

namespace Date

/-- A month begins when the one before it in the year is over. -/
private theorem toDays_nextMonth (year : Int) {month : Nat} (first : 1 ≤ month)
    (last : month ≤ 11) :
    toDays ⟨year, month + 1, 1⟩ = toDays ⟨year, month, 1⟩ + daysInMonth year month := by
  have fourHundred : year / 400 * 400 + year % 400 = year := by omega
  interval_cases month
  case «2» =>
    -- March begins another year of the count, after the leap day if there is one.
    by_cases leap : isLeapYear year
    · simp only [toDays, daysInMonth, leap, if_true]
      simp only [isLeapYear, Bool.and_eq_true, Bool.or_eq_true, beq_iff_eq, bne_iff_ne] at leap
      norm_num
      omega
    · simp only [toDays, daysInMonth, leap]
      simp only [isLeapYear, Bool.and_eq_true, Bool.or_eq_true, beq_iff_eq, bne_iff_ne] at leap
      norm_num
      omega
  all_goals
    simp [toDays, daysInMonth]
    omega

private theorem toDays_nextYear (year : Int) :
    toDays ⟨year + 1, 1, 1⟩ = toDays ⟨year, 12, 1⟩ + daysInMonth year 12 := by
  simp [toDays, daysInMonth]
  omega

/-- The first day of a month, months counted from January of the year 0. -/
def monthStart (month : Int) : Int :=
  toDays ⟨month / 12, (month % 12).toNat + 1, 1⟩

private theorem monthStart_succ (month : Int) :
    monthStart (month + 1) =
      monthStart month + daysInMonth (month / 12) ((month % 12).toNat + 1) := by
  unfold monthStart
  by_cases last : month % 12 = 11
  · have year : (month + 1) / 12 = month / 12 + 1 := by omega
    have january : (month + 1) % 12 = 0 := by omega
    rw [year, january, last]
    exact toDays_nextYear _
  · have year : (month + 1) / 12 = month / 12 := by omega
    have next : ((month + 1) % 12).toNat = (month % 12).toNat + 1 := by omega
    rw [year, next]
    exact toDays_nextMonth _ (by omega) (by omega)

private theorem daysInMonth_pos (year : Int) (month : Nat) : 0 < daysInMonth year month := by
  unfold daysInMonth
  split
  · split <;> decide
  all_goals decide

/-- A later month begins later. -/
private theorem monthStart_le {month later : Int} (order : month ≤ later) :
    monthStart month ≤ monthStart later := by
  induction later, order using Int.leInduction with
  | base => exact Int.le_refl _
  | succ later _ ih =>
    have some := daysInMonth_pos (later / 12) ((later % 12).toNat + 1)
    rw [monthStart_succ]
    omega

variable {a b : Date}

/-- The months before a date, counted from January of the year 0. -/
def monthsBefore (d : Date) : Int :=
  12 * d.year + d.month - 1

/-- A date lies in its month. -/
private theorem InCalendar.toDays_eq (there : a.InCalendar) :
    a.toDays = monthStart a.monthsBefore + a.day - 1 ∧
      a.toDays < monthStart (a.monthsBefore + 1) := by
  obtain ⟨⟨first, last⟩, early, late⟩ := there
  have year : a.monthsBefore / 12 = a.year := by
    unfold monthsBefore
    omega
  have month : (a.monthsBefore % 12).toNat + 1 = a.month := by
    unfold monthsBefore
    omega
  have within : a.toDays = monthStart a.monthsBefore + a.day - 1 := by
    rw [monthStart, year, month]
    simp only [toDays]
    omega
  refine ⟨within, ?_⟩
  rw [monthStart_succ, year, month]
  omega

/-- Dates compare like their days, by year, then by month, then by day, and what follows decides
where the dates are the same. -/
theorem InCalendar.lex_iff (there : a.InCalendar) (here : b.InCalendar) (rest : Prop) :
    (a.year < b.year ∨ a.year = b.year ∧ (a.month < b.month ∨ a.month = b.month ∧
      (a.day < b.day ∨ a.day = b.day ∧ rest))) ↔
        a.toDays < b.toDays ∨ a.toDays = b.toDays ∧ rest := by
  obtain ⟨daysA, endA⟩ := there.toDays_eq
  obtain ⟨daysB, endB⟩ := here.toDays_eq
  obtain ⟨⟨_, _⟩, _, _⟩ := there
  obtain ⟨⟨_, _⟩, _, _⟩ := here
  rcases lt_trichotomy a.monthsBefore b.monthsBefore with earlier | same | later
  · have ended : monthStart (a.monthsBefore + 1) ≤ monthStart b.monthsBefore :=
      monthStart_le earlier
    have less : a.toDays < b.toDays := by omega
    unfold monthsBefore at earlier
    by_cases follows : rest <;> simp only [follows, and_true, and_false, or_false] <;> omega
  · rw [same] at daysA
    unfold monthsBefore at same
    by_cases follows : rest <;> simp only [follows, and_true, and_false, or_false] <;> omega
  · have ended : monthStart (b.monthsBefore + 1) ≤ monthStart a.monthsBefore :=
      monthStart_le later
    have greater : b.toDays < a.toDays := by omega
    unfold monthsBefore at later
    by_cases follows : rest <;> simp only [follows, and_true, and_false, or_false] <;> omega

/-- A day before the year 0 has a negative year. -/
theorem year_ofDays_neg {days : Int} (early : days < -719528) : (ofDays days).year < 0 := by
  have there : (ofDays days).InCalendar := inCalendar_ofDays days
  obtain ⟨within, _⟩ := there.toDays_eq
  rw [toDays_ofDays] at within
  by_contra late
  have months : 0 ≤ (ofDays days).monthsBefore := by
    have first := there.month.1
    unfold monthsBefore
    omega
  have start : -719528 ≤ monthStart (ofDays days).monthsBefore :=
    monthStart_le months
  have day := there.day.1
  omega

/-- A day after the year 9999 has a year of more digits. -/
theorem year_ofDays_late {days : Int} (late : 2932896 < days) : 9999 < (ofDays days).year := by
  have there : (ofDays days).InCalendar := inCalendar_ofDays days
  obtain ⟨_, ended⟩ := there.toDays_eq
  rw [toDays_ofDays] at ended
  by_contra early
  have months : (ofDays days).monthsBefore + 1 ≤ 120000 := by
    have last := there.month.2
    unfold monthsBefore
    omega
  have start : monthStart ((ofDays days).monthsBefore + 1) ≤ 2932897 :=
    monthStart_le months
  omega

end Date

/-! ## Instants in order -/

namespace Instant

open Text

variable {s t : Instant}

theorem before_iff : s.before t ↔
    s.seconds < t.seconds ∨ s.seconds = t.seconds ∧ s.nanos < t.nanos := by
  simp [before]

/-- Times of day compare by hour, minute, second and millisecond. A leap second is the second 60 of
its minute. -/
private theorem clock_lex_iff {day other nanos nanos' : Nat}
    (leap : nanos < 1000000000 ∨ nanos < 2000000000 ∧ day % 60 = 59)
    (leap' : nanos' < 1000000000 ∨ nanos' < 2000000000 ∧ other % 60 = 59) :
    (day / 3600 < other / 3600 ∨ day / 3600 = other / 3600 ∧
      (day / 60 % 60 < other / 60 % 60 ∨ day / 60 % 60 = other / 60 % 60 ∧
        (day % 60 + nanos / nanosPerSecond < other % 60 + nanos' / nanosPerSecond ∨
          day % 60 + nanos / nanosPerSecond = other % 60 + nanos' / nanosPerSecond ∧
            nanos % nanosPerSecond / 1000000 < nanos' % nanosPerSecond / 1000000))) ↔
      day < other ∨ day = other ∧ nanos / 1000000 < nanos' / 1000000 := by
  unfold nanosPerSecond
  omega

/-- Stored texts compare by day, then by second of the day, then by millisecond. -/
theorem Dated.storedChars_lt_iff (first : s.Dated) (second : t.Dated) :
    s.storedChars < t.storedChars ↔ s.date.toDays < t.date.toDays ∨ s.date.toDays = t.date.toDays ∧
      (s.secondOfDay < t.secondOfDay ∨ s.secondOfDay = t.secondOfDay ∧
        s.nanos / 1000000 < t.nanos / 1000000) := by
  obtain ⟨year, month, day, hour, minute, sixtieth, millis⟩ := first.fits
  obtain ⟨year', month', day', hour', minute', sixtieth', millis'⟩ := second.fits
  have there : s.date.InCalendar := Date.inCalendar_ofDays _
  have here : t.date.InCalendar := Date.inCalendar_ofDays _
  have minuteEnd {u : Instant} (dated : u.Dated) :
      u.nanos < 1000000000 ∨ u.nanos < 2000000000 ∧ u.secondOfDay % 60 = 59 := by
    have leap := dated.leap
    unfold secondOfDay
    omega
  have years : s.date.year.toNat < t.date.year.toNat ↔ s.date.year < t.date.year := by
    have low := first.year.1
    omega
  have sameYear : s.date.year.toNat = t.date.year.toNat ↔ s.date.year = t.date.year := by
    have low := first.year.1
    have low' := second.year.1
    omega
  rw [first.storedChars_eq, second.storedChars_eq, laidOut, laidOut,
    field_lt_iff (by decide) year year', field_lt_iff (by decide) month month',
    field_lt_iff (by decide) day day', field_lt_iff (by decide) hour hour',
    field_lt_iff (by decide) minute minute', field_lt_iff (by decide) sixtieth sixtieth',
    field_lt_iff (by decide) millis millis', years, sameYear, there.lex_iff here,
    ← clock_lex_iff (minuteEnd first) (minuteEnd second)]
  simp only [List.lt_irrefl, and_false, or_false]

/-- Instants of the years 0 to 9999 compare as stored texts as they do when they are cut to
milliseconds. -/
theorem Dated.stored_lt_iff (first : s.Dated) (second : t.Dated) :
    s.stored < t.stored ↔ s.toMillis.before t.toMillis := by
  have days : s.date.toDays = s.seconds / 86400 := Date.toDays_ofDays _
  have days' : t.date.toDays = t.seconds / 86400 := Date.toDays_ofDays _
  have time : (s.secondOfDay : Int) = s.seconds % 86400 := by
    unfold secondOfDay
    omega
  have time' : (t.secondOfDay : Int) = t.seconds % 86400 := by
    unfold secondOfDay
    omega
  rw [stored, stored, String.lt_iff_toList_lt, String.toList_ofList, String.toList_ofList,
    first.storedChars_lt_iff second, before_iff]
  simp only [toMillis]
  omega

/-- The text of an instant before the year 0 starts with a sign, so it comes before all texts of
instants since then. -/
theorem Dated.stored_lt_iff_of_early (dated : s.Dated) (early : t.seconds < -62167219200) :
    s.stored < t.stored ↔ s.toMillis.before t.toMillis := by
  have low := dated.first
  have never : ¬s.toMillis.before t.toMillis := by
    rw [before_iff]
    simp only [toMillis]
    omega
  have sign : ∃ rest, t.storedChars = '-' :: rest := by
    have negative : t.date.year < 0 := Date.year_ofDays_neg (by omega)
    rw [storedChars, wholeChars, Date.toChars, Date.yearChars, if_pos negative]
    exact ⟨_, rfl⟩
  have digit : ∃ c rest, s.storedChars = c :: rest ∧ c.isDigit := by
    have size := length_padded (by decide) dated.fits.1
    obtain ⟨c, rest, year⟩ := List.exists_cons_of_length_eq_add_one size
    rw [dated.storedChars_eq, laidOut, year]
    exact ⟨c, _, rfl, isDigit_of_mem_padded (year ▸ List.mem_cons_self)⟩
  obtain ⟨after, here⟩ := sign
  obtain ⟨c, rest, there, isDigit⟩ := digit
  have greater : '-' < c :=
    Nat.lt_of_lt_of_le (by decide : '-'.toNat < '0'.toNat) (Char.isDigit_iff_toNat.mp isDigit).1
  rw [iff_false_right never, stored, stored, String.lt_iff_toList_lt, String.toList_ofList,
    String.toList_ofList, here, there, List.cons_lt_cons_iff]
  rintro (less | ⟨same, _⟩)
  · exact Char.lt_asymm less greater
  · exact absurd greater (same ▸ Char.lt_irrefl _)

end Instant

end JobRelay
