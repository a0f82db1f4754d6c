/-!
# Civil dates

Days are counted from the first of January 1970 in the Gregorian calendar, which is taken to hold at
all times.  Years are counted from the first of March inside the computation, so that the leap day
is the last one.

* `Civil.toDays`, `Civil.ofDays` — the days up to a date, and the date after so many days.
-/

namespace PatchStore.Time

/-- A date in the Gregorian calendar. -/
structure Civil where
  year : Int
  month : Nat
  day : Nat
  deriving DecidableEq, Inhabited

namespace Civil

/-- Whether a year has a leap day. -/
def isLeap (year : Int) : Bool := year % 4 == 0 && (year % 100 != 0 || year % 400 == 0)

/-- The number of days of a month. -/
def daysInMonth (year : Int) (month : Nat) : Nat :=
  if month = 2 then if isLeap year then 29 else 28
  else if month = 4 ∨ month = 6 ∨ month = 9 ∨ month = 11 then 30
  else 31

/-- The first and the last year that a date may have. -/
def inRange (year : Int) : Bool := -262143 ≤ year && year ≤ 262142

/-- Whether there is such a date. -/
def isValid (c : Civil) : Bool :=
  inRange c.year && 1 ≤ c.month && c.month ≤ 12 && 1 ≤ c.day && c.day ≤ daysInMonth c.year c.month

/-- The number of days from the start of the count to a date. -/
def toDays (c : Civil) : Int :=
  let year := if c.month ≤ 2 then c.year - 1 else c.year
  let era := year / 400
  let yearOfEra := year - era * 400
  let monthFromMarch : Int := ((c.month + 9) % 12 : Nat)
  let dayOfYear := (153 * monthFromMarch + 2) / 5 + c.day - 1
  let dayOfEra := yearOfEra * 365 + yearOfEra / 4 - yearOfEra / 100 + dayOfYear
  era * 146097 + dayOfEra - 719468

/-- The date that many days from the start of the count. -/
def ofDays (days : Int) : Civil :=
  let z := days + 719468
  let era := z / 146097
  let dayOfEra := z - era * 146097
  let yearOfEra := (dayOfEra - dayOfEra / 1460 + dayOfEra / 36524 - dayOfEra / 146096) / 365
  let dayOfYear := dayOfEra - (365 * yearOfEra + yearOfEra / 4 - yearOfEra / 100)
  let monthFromMarch := (5 * dayOfYear + 2) / 153
  let day := dayOfYear - (153 * monthFromMarch + 2) / 5 + 1
  let month := if monthFromMarch < 10 then monthFromMarch + 3 else monthFromMarch - 9
  let year := yearOfEra + era * 400
  ⟨if month ≤ 2 then year + 1 else year, month.toNat, day.toNat⟩

/-- The day of the week, Sunday being the first. -/
def weekday (c : Civil) : Nat := ((c.toDays + 4) % 7).toNat

/-- The first day of the count. -/
example : ofDays 0 = ⟨1970, 1, 1⟩ ∧ toDays ⟨1970, 1, 1⟩ = 0 := by decide

end Civil

end PatchStore.Time
