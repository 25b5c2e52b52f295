import SwitchFleet.Instant

/-!
# Days and dates

Every day has a date of the Gregorian calendar, from which the day is found again.

* `DayOfYear`: a day of an era of 400 years, as a day of one of its years. **`dayOfYear_yearOfEra`**: the
  year is the one that is computed.
* `DayOfMonth`: a day of a year, as a day of one of its months.
* **`daysOfDate_dateOfDays`**: the day of the date of a day. `dateOfDays_valid`: the date is there.
-/

namespace SwitchFleet.Instant

/-! ## Years -/

/-- The year of an era in which a day of the era lies. -/
def yearOfEra (dayOfEra : Int) : Int :=
  (dayOfEra - dayOfEra / 1460 + dayOfEra / 36524 - dayOfEra / 146096) / 365

/-- A day of an era is a day of a year. Years begin in March, so that a leap day ends its year. -/
structure DayOfYear (dayOfEra year day : Int) : Prop where
  eq : dayOfEra = 365 * year + year / 4 - year / 100 + day
  year_nonneg : 0 ≤ year
  year_le : year ≤ 399
  day_nonneg : 0 ≤ day
  day_le : day ≤ 364 ∨ day = 365 ∧ isLeapYear (year + 1) = true

/-- A day of an era lies in a century, there in a time of four years, and there in a year. -/
theorem split_dayOfEra {n : Int} (hn : 0 ≤ n) (hlt : n < 146097) :
    ∃ c q y d : Int, n = 36524 * c + 1461 * q + 365 * y + d ∧ (0 ≤ c ∧ c ≤ 3) ∧ (0 ≤ q ∧ q ≤ 24) ∧
      (0 ≤ y ∧ y ≤ 3) ∧ 0 ≤ d ∧ (d ≤ 364 ∨ d = 365 ∧ y = 3 ∧ (q ≤ 23 ∨ c = 3)) := by
  by_cases hlast : n = 146096
  · exact ⟨3, 24, 3, 365, by omega, by omega⟩
  by_cases hleap : n % 36524 % 1461 = 1460
  · exact ⟨n / 36524, n % 36524 / 1461, 3, 365, by omega, by omega⟩
  · exact ⟨n / 36524, n % 36524 / 1461, n % 36524 % 1461 / 365, n % 36524 % 1461 % 365, by omega,
      by omega⟩

/-- **The year of a day** is the one that is computed. -/
theorem dayOfYear_yearOfEra {n : Int} (hn : 0 ≤ n) (hlt : n < 146097) :
    ∃ day, DayOfYear n (yearOfEra n) day := by
  obtain ⟨c, q, y, d, hsplit, hc, hq, hy, hd, hday⟩ := split_dayOfEra hn hlt
  have hcentury : n / 36524 - n / 146096 = c := by
    rcases Int.lt_or_le n 146096 with hbefore | hlast
    · have hfirst : n / 146096 = 0 := by omega
      have hsecond : n / 36524 = c := by omega
      omega
    · omega
  have hfour : n / 1460 = 25 * c + q ∧ d ≤ 364 ∨ n / 1460 = 25 * c + q + 1 ∧ 1 ≤ d := by omega
  have hyear : yearOfEra n = 100 * c + 4 * q + y := by
    unfold yearOfEra
    omega
  refine ⟨d, ?_, ?_, ?_, hd, ?_⟩
  · omega
  · omega
  · omega
  · rcases hday with hday | ⟨hday, hthree, hleap⟩
    · exact .inl hday
    · refine .inr ⟨hday, ?_⟩
      have hmod : (yearOfEra n + 1) % 4 = 0 ∧
          ((yearOfEra n + 1) % 100 ≠ 0 ∨ (yearOfEra n + 1) % 400 = 0) := by omega
      simpa [isLeapYear] using hmod

theorem isLeapYear_add (year era : Int) : isLeapYear (year + 400 * era) = isLeapYear year := by
  have hfour : (year + 400 * era) % 4 = year % 4 := by omega
  have hhundred : (year + 400 * era) % 100 = year % 100 := by omega
  have hera : (year + 400 * era) % 400 = year % 400 := by omega
  simp only [isLeapYear, hfour, hhundred, hera]

/-! ## Months -/

/-- A day of a year is a day of a month, counted from March. -/
structure DayOfMonth (dayOfYear month day : Int) : Prop where
  eq : dayOfYear = (153 * month + 2) / 5 + day - 1
  month_nonneg : 0 ≤ month
  month_le : month ≤ 11
  day_pos : 1 ≤ day
  day_lt : day < (153 * (month + 1) + 2) / 5 - (153 * month + 2) / 5 + 1

theorem dayOfMonth_of_day {n : Int} (hn : 0 ≤ n) (hle : n ≤ 365) :
    DayOfMonth n ((5 * n + 2) / 153) (n - (153 * ((5 * n + 2) / 153) + 2) / 5 + 1) := by
  constructor <;> omega

/-- A month counted from March, as a month of a year that begins in January. -/
def monthOf (fromMarch : Int) : Int := if fromMarch < 10 then fromMarch + 3 else fromMarch - 9

theorem le_daysOfMonth {year n month day : Int} (h : DayOfMonth n month day)
    (hn : n ≤ 364 ∨ n = 365 ∧ isLeapYear year = true) :
    day ≤ daysOfMonth year (monthOf month).toNat := by
  obtain ⟨heq, hnonneg, hle, hpos, hlt⟩ := h
  have hmonth : month = 0 ∨ month = 1 ∨ month = 2 ∨ month = 3 ∨ month = 4 ∨ month = 5 ∨ month = 6 ∨
      month = 7 ∨ month = 8 ∨ month = 9 ∨ month = 10 ∨ month = 11 := by omega
  rcases hmonth with rfl | rfl | rfl | rfl | rfl | rfl | rfl | rfl | rfl | rfl | rfl | rfl
  case inr.inr.inr.inr.inr.inr.inr.inr.inr.inr.inr =>
    change day ≤ ((if isLeapYear year = true then 29 else 28 : Nat) : Int)
    split
    · omega
    · rename_i hleap
      have hshort : n ≤ 364 := hn.resolve_right fun h => hleap h.2
      omega
  case inl | inr.inr.inl | inr.inr.inr.inr.inl | inr.inr.inr.inr.inr.inl |
      inr.inr.inr.inr.inr.inr.inr.inl | inr.inr.inr.inr.inr.inr.inr.inr.inr.inl |
      inr.inr.inr.inr.inr.inr.inr.inr.inr.inr.inl =>
    change day ≤ ((31 : Nat) : Int)
    omega
  all_goals
    change day ≤ ((30 : Nat) : Int)
    omega

/-! ## Dates of days -/

section

variable (days : Int)

/-- The era of a day. -/
def eraOf : Int := (days + 719468).fdiv 146097

theorem dayOfEra_range :
    0 ≤ days + 719468 - eraOf days * 146097 ∧ days + 719468 - eraOf days * 146097 < 146097 := by
  have h : (days + 719468).fdiv 146097 = (days + 719468) / 146097 :=
    Int.fdiv_eq_ediv_of_nonneg _ (by omega)
  unfold eraOf
  omega

theorem dateOfDays_eq : ∃ y n m d, DayOfYear (days + 719468 - eraOf days * 146097) y n ∧
    DayOfMonth n m d ∧
      dateOfDays days =
        (y + eraOf days * 400 + if monthOf m ≤ 2 then 1 else 0, monthOf m, d) := by
  obtain ⟨hnonneg, hlt⟩ := dayOfEra_range days
  obtain ⟨n, hn⟩ := dayOfYear_yearOfEra hnonneg hlt
  have hle : n ≤ 365 := by
    rcases hn.day_le with h | ⟨h, -⟩ <;> omega
  have hm := dayOfMonth_of_day hn.day_nonneg hle
  have hday : n = days + 719468 - eraOf days * 146097 -
      (365 * yearOfEra (days + 719468 - eraOf days * 146097) +
        yearOfEra (days + 719468 - eraOf days * 146097) / 4 -
          yearOfEra (days + 719468 - eraOf days * 146097) / 100) := by
    have heq := hn.eq
    omega
  refine ⟨_, n, _, _, hn, hm, ?_⟩
  rw [hday]
  rfl

theorem monthOf_range {n m d : Int} (h : DayOfMonth n m d) :
    1 ≤ monthOf m ∧ monthOf m ≤ 12 ∧
      (monthOf m ≤ 2 ∧ m = monthOf m + 9 ∨ 2 < monthOf m ∧ m = monthOf m - 3) := by
  have hnonneg := h.month_nonneg
  have hle := h.month_le
  unfold monthOf
  split <;> omega

/-- **Dates of days.** The date is there. -/
theorem dateOfDays_valid {year month day : Int} (h : dateOfDays days = (year, month, day)) :
    (1 ≤ month ∧ month ≤ 12) ∧ 1 ≤ day ∧ day ≤ daysOfMonth year month.toNat := by
  obtain ⟨y, n, m, d, hyear, hmonth, heq⟩ := dateOfDays_eq days
  rw [heq] at h
  cases h
  obtain ⟨hpos, hle, hside⟩ := monthOf_range hmonth
  refine ⟨⟨hpos, hle⟩, hmonth.day_pos, le_daysOfMonth hmonth ?_⟩
  rcases hyear.day_le with hday | ⟨hday, hleap⟩
  · exact .inl hday
  · -- The leap day is in February, which is counted to the year after.
    have hlast : monthOf m ≤ 2 := by
      have hn := hmonth.eq
      have hd := hmonth.day_lt
      omega
    refine .inr ⟨hday, ?_⟩
    rw [if_pos hlast, show y + eraOf days * 400 + 1 = y + 1 + 400 * eraOf days by omega,
      isLeapYear_add]
    exact hleap

/-- **The day of a date** of a day is that day. -/
theorem daysOfDate_dateOfDays {year month day : Int} (h : dateOfDays days = (year, month, day)) :
    daysOfDate year month.toNat day.toNat = days := by
  obtain ⟨y, n, m, d, hyear, hmonth, heq⟩ := dateOfDays_eq days
  rw [heq] at h
  cases h
  obtain ⟨hpos, hle, hside⟩ := monthOf_range hmonth
  have hday := hmonth.day_pos
  have hfromMarch : (if (monthOf m).toNat ≤ 2 then ((monthOf m).toNat : Int) + 9
      else ((monthOf m).toNat : Int) - 3) = m := by
    split <;> omega
  have hy : (if (monthOf m).toNat ≤ 2 then
      (y + eraOf days * 400 + if monthOf m ≤ 2 then 1 else 0) - 1
        else y + eraOf days * 400 + if monthOf m ≤ 2 then 1 else 0) = y + eraOf days * 400 := by
    split <;> split <;> omega
  have hera : (y + eraOf days * 400).fdiv 400 = eraOf days := by
    have hnonneg := hyear.year_nonneg
    have hlt := hyear.year_le
    have hfdiv : (y + eraOf days * 400).fdiv 400 = (y + eraOf days * 400) / 400 :=
      Int.fdiv_eq_ediv_of_nonneg _ (by omega)
    omega
  have hn := hyear.eq
  have hd := hmonth.eq
  simp only [daysOfDate, hfromMarch, hy, hera, Int.toNat_of_nonneg (show 0 ≤ day by omega)]
  omega

end

end SwitchFleet.Instant
