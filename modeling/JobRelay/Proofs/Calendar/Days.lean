import JobRelay.Calendar.Date
import Mathlib.Tactic.IntervalCases
import Mathlib.Tactic.Linarith
import Mathlib.Tactic.Ring

/-! # Days and dates

Eras of four hundred years have equally many days, and so have centuries, groups of four years and
years but for their last day, which may be missing. Taking a day apart along these parts shows
that every number of days is a date of the calendar, and that the date counts as that number.
-/

namespace JobRelay.Date

/-! ## Days of an era -/

/-- The year of a day of an era, whose years begin in March. -/
def yearOfEra (day : Int) : Int :=
  (day - day / 1460 + day / 36524 - day / 146096) / 365

/-- The days of an era before one of its years. -/
def daysBefore (year : Int) : Int :=
  365 * year + year / 4 - year / 100

/-- A day of an era as a century, a group of four years, a year of the group and a day of the
year. The leap day is the last one of a year, and only every fourth year has it. -/
private theorem exists_parts {day : Int} (low : 0 ≤ day) (high : day ≤ 146096) :
    ∃ century group year rest : Int, (0 ≤ century ∧ century ≤ 3) ∧ (0 ≤ group ∧ group ≤ 24) ∧
      (0 ≤ year ∧ year ≤ 3) ∧ (0 ≤ rest ∧ rest ≤ 365) ∧
      (rest = 365 → year = 3 ∧ (group = 24 → century = 3)) ∧
      day = 36524 * century + 1461 * group + 365 * year + rest := by
  let century := min (day / 36524) 3
  let group := (day - 36524 * century) / 1461
  let year := min ((day - 36524 * century - 1461 * group) / 365) 3
  refine ⟨century, group, year, day - 36524 * century - 1461 * group - 365 * year, ?_, ?_, ?_, ?_,
    ?_, ?_⟩ <;> omega

section Parts

variable {day century group year rest : Int} (c : 0 ≤ century ∧ century ≤ 3)
  (g : 0 ≤ group ∧ group ≤ 24) (y : 0 ≤ year ∧ year ≤ 3) (r : 0 ≤ rest ∧ rest ≤ 365)
  (leap : rest = 365 → year = 3 ∧ (group = 24 → century = 3))
  (parts : day = 36524 * century + 1461 * group + 365 * year + rest)

include c g y r leap parts

/-- The quotients that the year of a day is computed from. -/
private theorem quotients_of_parts :
    day / 36524 - day / 146096 = century ∧
      day / 1460 = 25 * century + group + (24 * century + group + 365 * year + rest) / 1460 := by
  obtain ⟨inCentury, here⟩ : ∃ n, n = 1461 * group + 365 * year + rest := ⟨_, rfl⟩
  have within : 0 ≤ inCentury ∧ inCentury ≤ 36524 ∧ (inCentury = 36524 → century = 3) := by omega
  have whole : day = 36524 * century + inCentury := by omega
  constructor
  · -- The last day of an era is counted in a century of its own.
    clear here parts
    omega
  · omega

private theorem yearOfEra_of_parts : yearOfEra day = 100 * century + 4 * group + year := by
  obtain ⟨centuries, groups⟩ := quotients_of_parts c g y r leap parts
  -- A group has a day more than four times 365, so a late day may count one group more.
  obtain ⟨extra, here⟩ :
    ∃ n, n = (24 * century + group + 365 * year + rest) / 1460 := ⟨_, rfl⟩
  have low : 0 ≤ rest - extra := by omega
  have high : rest - extra < 365 := by omega
  have total : day - day / 1460 + day / 36524 - day / 146096 =
      rest - extra + 365 * (100 * century + 4 * group + year) := by
    rw [← here] at groups
    linarith
  rw [yearOfEra, total, Int.add_mul_ediv_left _ _ (by decide), Int.ediv_eq_zero_of_lt low high,
    Int.zero_add]

private theorem daysBefore_of_parts :
    daysBefore (yearOfEra day) = 36524 * century + 1461 * group + 365 * year := by
  have fours : (100 * century + 4 * group + year) / 4 = 25 * century + group := by omega
  have hundreds : (100 * century + 4 * group + year) / 100 = century := by omega
  rw [yearOfEra_of_parts c g y r leap parts, daysBefore, fours, hundreds]
  ring

end Parts

/-- The year of a day of an era begins no later than the day, which is one of its 365 or, in a
leap year, 366 days. -/
theorem yearOfEra_spec {day : Int} (low : 0 ≤ day) (high : day ≤ 146096) :
    (0 ≤ yearOfEra day ∧ yearOfEra day ≤ 399) ∧
      (0 ≤ day - daysBefore (yearOfEra day) ∧ day - daysBefore (yearOfEra day) ≤ 365) ∧
      (day - daysBefore (yearOfEra day) = 365 →
        yearOfEra day % 4 = 3 ∧ (yearOfEra day % 100 = 99 → yearOfEra day = 399)) := by
  obtain ⟨century, group, year, rest, c, g, y, r, leap, parts⟩ := exists_parts low high
  have dayOfYear : day - daysBefore (yearOfEra day) = rest := by
    rw [daysBefore_of_parts c g y r leap parts, parts]
    ring
  rw [dayOfYear, yearOfEra_of_parts c g y r leap parts]
  refine ⟨?_, r, fun last => ?_⟩
  · omega
  · obtain ⟨third, late⟩ := leap last
    omega

/-! ## Days of a year -/

/-- The date of a day of a year that begins in March. -/
def ofYearDay (year day : Int) : Date :=
  let month := (5 * day + 2) / 153
  if month < 10 then ⟨year, (month + 3).toNat, (day - (153 * month + 2) / 5 + 1).toNat⟩
  else ⟨year + 1, (month - 9).toNat, (day - (153 * month + 2) / 5 + 1).toNat⟩

private theorem toDays_ofYearDay {year day : Int} (low : 0 ≤ day) (high : day ≤ 365) :
    (ofYearDay year day).toDays =
      year / 400 * 146097 + daysBefore (year % 400) + day - 719468 := by
  rw [ofYearDay, daysBefore]
  split
  · have late : ¬((5 * day + 2) / 153 + 3).toNat ≤ 2 := by omega
    simp only [toDays, late, if_false]
    omega
  · have early : ((5 * day + 2) / 153 - 9).toNat ≤ 2 := by omega
    simp only [toDays, early, if_true]
    omega

theorem daysInMonth_le (year : Int) (month : Nat) : daysInMonth year month ≤ 31 := by
  unfold daysInMonth
  split
  · split <;> decide
  all_goals decide

/-- The month and the day of a date are there in the calendar. -/
structure InCalendar (d : Date) : Prop where
  month : 1 ≤ d.month ∧ d.month ≤ 12
  day : 1 ≤ d.day ∧ d.day ≤ daysInMonth d.year d.month

private theorem inCalendar_ofYearDay {year day : Int} (low : 0 ≤ day) (high : day ≤ 365)
    (leap : day = 365 → isLeapYear (year + 1)) : InCalendar (ofYearDay year day) := by
  have february : day - 336 ≤ daysInMonth (year + 1) 2 := by
    by_cases last : day = 365
    · simp [daysInMonth, leap last, last]
    · simp only [daysInMonth]
      split <;> omega
  obtain ⟨month, here⟩ : ∃ n, n = (5 * day + 2) / 153 := ⟨_, rfl⟩
  rw [ofYearDay, ← here]
  obtain ⟨least, most⟩ : 0 ≤ month ∧ month ≤ 11 := by omega
  interval_cases month
  all_goals
    constructor
    · simp
    · simp [daysInMonth] at february ⊢
      omega

/-! ## Dates of numbers of days -/

private theorem ofDays_eq (days : Int) :
    ofDays days =
      ofYearDay (yearOfEra ((days + 719468) % 146097) + (days + 719468) / 146097 * 400)
        ((days + 719468) % 146097 - daysBefore (yearOfEra ((days + 719468) % 146097))) := rfl

/-- Every number of days is a date of the calendar. -/
theorem inCalendar_ofDays (days : Int) : InCalendar (ofDays days) := by
  obtain ⟨_, ⟨low, high⟩, leap⟩ :=
    yearOfEra_spec (show 0 ≤ (days + 719468) % 146097 by omega) (by omega)
  rw [ofDays_eq]
  refine inCalendar_ofYearDay low high fun last => ?_
  obtain ⟨fourth, hundredth⟩ := leap last
  simp only [isLeapYear, Bool.and_eq_true, Bool.or_eq_true, beq_iff_eq, bne_iff_ne]
  omega

theorem toDays_ofDays (days : Int) : (ofDays days).toDays = days := by
  obtain ⟨_, ⟨low, high⟩, _⟩ :=
    yearOfEra_spec (show 0 ≤ (days + 719468) % 146097 by omega) (by omega)
  rw [ofDays_eq, toDays_ofYearDay low high]
  have era : (yearOfEra ((days + 719468) % 146097) + (days + 719468) / 146097 * 400) / 400 =
      (days + 719468) / 146097 := by omega
  have year : (yearOfEra ((days + 719468) % 146097) + (days + 719468) / 146097 * 400) % 400 =
      yearOfEra ((days + 719468) % 146097) := by omega
  rw [era, year]
  omega

/-- The years of the days from 0000-01-01 to 9999-12-31 have at most four digits. The first of
them lie in the last year of an era that begins before the year 0. -/
theorem year_ofDays {days : Int} (low : -719528 ≤ days) (high : days ≤ 2932896) :
    0 ≤ (ofDays days).year ∧ (ofDays days).year ≤ 9999 := by
  obtain ⟨⟨least, most⟩, ⟨first, last⟩, _⟩ :=
    yearOfEra_spec (show 0 ≤ (days + 719468) % 146097 by omega) (by omega)
  rw [ofDays_eq, ofYearDay]
  obtain ⟨era, here⟩ : ∃ n, n = (days + 719468) / 146097 := ⟨_, rfl⟩
  obtain ⟨day, there⟩ : ∃ n, n = (days + 719468) % 146097 := ⟨_, rfl⟩
  have total : days + 719468 = 146097 * era + day := by omega
  have eras : -1 ≤ era ∧ era ≤ 24 := by omega
  rw [← there] at least most first last ⊢
  rw [← here]
  obtain ⟨year, same⟩ : ∃ n, n = yearOfEra day := ⟨_, rfl⟩
  rw [← same] at least most first last ⊢
  unfold daysBefore at first last ⊢
  have starts : era = -1 → year = 399 ∧ 306 ≤ day - (365 * year + year / 4 - year / 100) := by
    omega
  have ends : era = 24 → year = 399 → day - (365 * year + year / 4 - year / 100) ≤ 305 := by
    omega
  split <;> simp only <;> omega

end JobRelay.Date
