import Mathlib.Order.Monotone.Basic
import PatchStore.Time.Civil

/-!
# Days and dates

A day number is taken apart into an era of 400 years, a year of the era that begins in March, and a
day of that year; the date is made from these.  Put together again, they give the day number back.

* `yearStart_le_of_commonDays` — the days without the leap days tell the year; they grow with the
  days, so it is enough to look at the ends of each year.
* `ofDays_eq` — a day number, taken apart.
* `toDays_ofDays`, `isValid_ofDays` — the date of a day is a date that there is, and leads back to
  it.
-/

namespace PatchStore.Time.Civil

/-! ## Years of an era -/

/-- The day of an era on which a year of the era begins, on the first of March. -/
def yearStart (year : Nat) : Nat := 365 * year + year / 4 - year / 100

/-- The days of a year of an era, of which a leap day is the last. -/
def yearLength (year : Nat) : Nat := if isLeap (year + 1 : Nat) then 366 else 365

/-- The days of an era up to a day, less the leap days before it. -/
def commonDays (day : Nat) : Nat := day - day / 1460 + day / 36524 - day / 146096

theorem commonDays_mono : Monotone commonDays := by
  refine monotone_nat_of_le_succ fun day => ?_
  rw [commonDays, commonDays]
  omega

/-- On the first day of a year the common days are those of whole years, and one day earlier they
are not. -/
theorem commonDays_yearStart_all :
    ∀ year < 400, commonDays (yearStart year) / 365 = year ∧
      (year = 0 ∨ commonDays (yearStart year - 1) / 365 + 1 = year) := by
  decide +kernel

theorem yearStart_succ_all :
    ∀ year < 400, yearStart year + yearLength year =
      if year = 399 then 146097 else yearStart (year + 1) := by
  decide +kernel

/-- The common days tell the year. -/
theorem yearStart_le_of_commonDays {day year : Nat} (hday : day < 146097)
    (hyear : commonDays day / 365 = year) :
    year < 400 ∧ yearStart year ≤ day ∧ day < yearStart year + yearLength year := by
  have hlast : commonDays day ≤ commonDays 146096 := commonDays_mono (by omega)
  have hcommon : commonDays 146096 = 145999 := by decide
  have hlt : year < 400 := by omega
  refine ⟨hlt, ?_, ?_⟩
  · by_contra hbefore
    have hmono : commonDays day ≤ commonDays (yearStart year - 1) := commonDays_mono (by omega)
    rcases (commonDays_yearStart_all year hlt).2 with rfl | hends
    · exact hbefore (Nat.zero_le day)
    · omega
  · by_contra hafter
    rw [yearStart_succ_all year hlt] at hafter
    split at hafter
    · exact hafter hday
    · have hmono : commonDays (yearStart (year + 1)) ≤ commonDays day :=
        commonDays_mono (Nat.le_of_not_lt hafter)
      have hbegins := (commonDays_yearStart_all (year + 1) (by omega)).1
      omega

/-! ## Days of a year -/

/-- The month that a day of a year from the first of March is in, that of March being the first. -/
def monthOfDay (day : Nat) : Nat := (5 * day + 2) / 153

/-- The day of a year from the first of March on which a month begins. -/
def monthStart (month : Nat) : Nat := (153 * month + 2) / 5

theorem monthOfDay_lt {day : Nat} (h : day < 366) : monthOfDay day < 12 := by
  rw [monthOfDay]
  omega

theorem yearLength_le (year : Nat) : yearLength year ≤ 366 := by
  rw [yearLength]
  split <;> omega

/-- The date of a day of a year from the first of March. -/
def ofDayOfYear (year : Int) (day : Nat) : Civil :=
  let date := day - monthStart (monthOfDay day) + 1
  if monthOfDay day < 10 then ⟨year, monthOfDay day + 3, date⟩
  else ⟨year + 1, monthOfDay day - 9, date⟩

/-! ## From a day to its date and back -/

/-- Every day is a day of some year of some era. -/
theorem ofDays_eq (days : Int) : ∃ (era : Int) (year day : Nat), year < 400 ∧
    day < yearLength year ∧ days + 719468 = era * 146097 + (yearStart year + day : Nat) ∧
    ofDays days = ofDayOfYear (year + era * 400) day := by
  obtain ⟨n, hn⟩ : ∃ n : Nat, (days + 719468) - (days + 719468) / 146097 * 146097 = n :=
    ⟨((days + 719468) - (days + 719468) / 146097 * 146097).toNat, by omega⟩
  obtain ⟨year, hyear⟩ : ∃ year, commonDays n / 365 = year := ⟨_, rfl⟩
  obtain ⟨hlt, hstart, hend⟩ := yearStart_le_of_commonDays (by omega) hyear
  obtain ⟨day, rfl⟩ := Nat.exists_eq_add_of_le hstart
  refine ⟨(days + 719468) / 146097, year, day, hlt, by omega, by omega, ?_⟩
  -- each number that is computed is the number of the day's year, of its month, and so on
  obtain ⟨days', hdays⟩ : ∃ days', days' = yearStart year + day := ⟨_, rfl⟩
  have hyearOfEra : ((days' : Int) - (days' : Int) / 1460 + (days' : Int) / 36524 -
      (days' : Int) / 146096) / 365 = year := by
    rw [commonDays, ← hdays] at hyear
    omega
  have hdayOfYear :
      (days' : Int) - (365 * (year : Int) + (year : Int) / 4 - (year : Int) / 100) = day := by
    rw [yearStart] at hdays
    omega
  have hmonth : (5 * (day : Int) + 2) / 153 = monthOfDay day := by
    rw [monthOfDay]
    omega
  have hmonthStart : (153 * (monthOfDay day : Int) + 2) / 5 = monthStart (monthOfDay day) := by
    rw [monthStart]
    omega
  have hlast : monthOfDay day < 12 := monthOfDay_lt (by have := yearLength_le year; omega)
  have hbegun : monthStart (monthOfDay day) ≤ day := by
    rw [monthStart, monthOfDay]
    omega
  rw [ofDays, ofDayOfYear]
  simp only [hn, ← hdays, hyearOfEra, hdayOfYear, hmonth, hmonthStart]
  generalize monthOfDay day = month at *
  generalize monthStart month = first at *
  by_cases hten : month < 10
  · have hcast : (month : Int) < 10 := by omega
    rw [if_pos hcast, if_pos hten, if_neg (by omega), mk.injEq]
    exact ⟨rfl, by omega, by omega⟩
  · have hcast : ¬(month : Int) < 10 := by omega
    rw [if_neg hcast, if_neg hten, if_pos (by omega), mk.injEq]
    exact ⟨rfl, by omega, by omega⟩

theorem toDays_ofDayOfYear (era : Int) {year day : Nat} (hyear : year < 400) (hday : day < 366) :
    (ofDayOfYear (year + era * 400) day).toDays =
      era * 146097 + (yearStart year + day : Nat) - 719468 := by
  have hlast := monthOfDay_lt hday
  have hbegun : monthStart (monthOfDay day) ≤ day := by
    rw [monthStart, monthOfDay]
    omega
  have hera : (year + era * 400) / 400 = era := by omega
  have hstart : (year + era * 400 - era * 400) * 365 + (year + era * 400 - era * 400) / 4 -
      (year + era * 400 - era * 400) / 100 = (yearStart year : Nat) := by
    rw [yearStart]
    omega
  have hmonthStart : ∀ month, ((153 * (month : Nat) + 2) / 5 : Int) = monthStart month := by
    intro month
    rw [monthStart]
    omega
  rw [ofDayOfYear]
  generalize monthOfDay day = month at *
  by_cases hten : month < 10
  · have hmonth : (month + 3 + 9) % 12 = month := by omega
    have hmarch : ¬month + 3 ≤ 2 := by omega
    simp only [if_pos hten, toDays, if_neg hmarch, hera, hstart, hmonth, hmonthStart]
    omega
  · have hmonth : (month - 9 + 9) % 12 = month := by omega
    have hjanuary : month - 9 ≤ 2 := by omega
    have hback : (year : Int) + era * 400 + 1 - 1 = year + era * 400 := by omega
    simp only [if_neg hten, toDays, if_pos hjanuary, hback, hera, hstart, hmonth, hmonthStart]
    omega

/-- A day is the day of its date. -/
theorem toDays_ofDays (days : Int) : (ofDays days).toDays = days := by
  obtain ⟨era, year, day, hyear, hday, hdays, hdate⟩ := ofDays_eq days
  rw [hdate, toDays_ofDayOfYear era hyear (Nat.lt_of_lt_of_le hday (yearLength_le year))]
  omega

/-! ## Dates that there are -/

/-- The days of a year of 365 days have dates that there are. -/
theorem ofDayOfYear_fits_all : ∀ day < 365,
    let c := ofDayOfYear 0 day
    1 ≤ c.month ∧ c.month ≤ 12 ∧ 1 ≤ c.day ∧ c.day ≤ daysInMonth 1 c.month := by
  decide +kernel

theorem daysInMonth_le (year : Int) (month : Nat) :
    daysInMonth 1 month ≤ daysInMonth year month := by
  have hcommon : isLeap 1 = false := by decide
  rw [daysInMonth, daysInMonth, hcommon]
  by_cases hmonth : month = 2
  · rw [if_pos hmonth, if_pos hmonth]
    cases isLeap year <;> decide
  · rw [if_neg hmonth, if_neg hmonth]

theorem isLeap_add_eras (year era : Int) : isLeap (year + era * 400) = isLeap year := by
  have h4 : (year + era * 400) % 4 = year % 4 := by omega
  have h100 : (year + era * 400) % 100 = year % 100 := by omega
  have h400 : (year + era * 400) % 400 = year % 400 := by omega
  rw [isLeap, isLeap, h4, h100, h400]

/-- The month and the day of the month are the same in every year. -/
theorem ofDayOfYear_eq (year : Int) (day : Nat) :
    (ofDayOfYear year day).month = (ofDayOfYear 0 day).month ∧
      (ofDayOfYear year day).day = (ofDayOfYear 0 day).day := by
  rw [ofDayOfYear, ofDayOfYear]
  split <;> exact ⟨rfl, rfl⟩

/-- Days have dates that there are, as far as years go. -/
theorem isValid_ofDays {days : Int} (h : inRange (ofDays days).year = true) :
    (ofDays days).isValid = true := by
  obtain ⟨era, year, day, hyear, hday, hdays, hdate⟩ := ofDays_eq days
  rw [isValid, h, hdate]
  by_cases hcommon : day < 365
  · obtain ⟨hmonth, hday⟩ := ofDayOfYear_eq (year + era * 400) day
    obtain ⟨hfirst, hlast, hone, hfits⟩ := ofDayOfYear_fits_all day hcommon
    have hfits := Nat.le_trans hfits
      (daysInMonth_le (ofDayOfYear (year + era * 400) day).year (ofDayOfYear 0 day).month)
    rw [hmonth, hday]
    simp only [hfirst, hlast, hone, hfits, decide_true, Bool.and_self]
  · -- the leap day
    have hleap : isLeap (year + 1 : Nat) = true := by
      rw [yearLength] at hday
      split at hday
      · assumption
      · exact absurd hday hcommon
    obtain rfl : day = 365 := by
      have := yearLength_le year
      omega
    have hdate : ofDayOfYear (year + era * 400) 365 = ⟨(year + 1 : Nat) + era * 400, 2, 29⟩ := by
      show (⟨year + era * 400 + 1, 2, 29⟩ : Civil) = _
      rw [mk.injEq]
      exact ⟨by omega, rfl, rfl⟩
    rw [hdate, daysInMonth, if_pos rfl, isLeap_add_eras, hleap]
    rfl

/-- The days of years of four digits, and some more. -/
theorem bounds_of_year {days : Int} (h : 0 ≤ (ofDays days).year ∧ (ofDays days).year ≤ 9999) :
    -865565 ≤ days ∧ days ≤ 2933323 := by
  obtain ⟨era, year, day, hyear, hday, hdays, hdate⟩ := ofDays_eq days
  have hlt : day < 366 := Nat.lt_of_lt_of_le hday (yearLength_le year)
  rw [hdate, ofDayOfYear] at h
  rw [yearStart] at hdays
  split at h
  · have hyears : 0 ≤ year + era * 400 ∧ year + era * 400 ≤ 9999 := h
    omega
  · have hyears : 0 ≤ year + era * 400 + 1 ∧ year + era * 400 + 1 ≤ 9999 := h
    omega

end PatchStore.Time.Civil
