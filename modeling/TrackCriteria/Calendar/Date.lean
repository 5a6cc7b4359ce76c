/-!
# Days of the calendar

The proleptic Gregorian calendar: leap years every fourth year but three centuries of four, carried
back before year 1 and through year 0. A `Date` is a day of this calendar in the years that an
instant can lie in, so a value of the type is always a day that exists.

Days are numbered from 1 January 1970, which has number 0 (`Date.dayNumber`); `civil` reads a number
back as year, month and day, and `Date.ofDayNumber?` as a date where the year is in range.
-/

namespace TrackCriteria.Calendar

/-! ### Years and months -/

/-- Whether the year has a 29 February. -/
def isLeapYear (year : Int) : Bool :=
  year % 4 == 0 && (year % 100 != 0 || year % 400 == 0)

/-- The number of days of a month, in a leap year or in another one. -/
def monthLength (leap : Bool) (month : Nat) : Nat :=
  if month = 2 then if leap then 29 else 28
  else if month = 4 ∨ month = 6 ∨ month = 9 ∨ month = 11 then 30
  else 31

/-- The number of days of the year before the first of a month. -/
def daysBeforeMonth (leap : Bool) : (month : Nat) → Nat
  | 0 => 0
  | 1 => 0
  | month + 2 => daysBeforeMonth leap (month + 1) + monthLength leap (month + 1)

/-- The number of days from 1 January of year 1 to 1 January of a year. -/
def daysBeforeYear (year : Int) : Int :=
  365 * (year - 1) + (year - 1) / 4 - (year - 1) / 100 + (year - 1) / 400

/-! ### Dates -/

/-- The first year that a date can have. -/
def minYear : Int := -262143

/-- The last year that a date can have. -/
def maxYear : Int := 262142

/-- A day of the calendar. -/
structure Date where
  /-- The year; the year before 1 is 0. -/
  year : Int
  /-- The month, from 1. -/
  month : Nat
  /-- The day of the month, from 1. -/
  day : Nat
  minYear_le : minYear ≤ year
  le_maxYear : year ≤ maxYear
  one_le_month : 1 ≤ month
  month_le : month ≤ 12
  one_le_day : 1 ≤ day
  day_le : day ≤ monthLength (isLeapYear year) month
deriving DecidableEq

namespace Date

/-- The date of a year, month and day, if there is one. -/
def of? (year : Int) (month day : Nat) : Option Date :=
  if h : (minYear ≤ year ∧ year ≤ maxYear) ∧ (1 ≤ month ∧ month ≤ 12) ∧
      1 ≤ day ∧ day ≤ monthLength (isLeapYear year) month then
    some ⟨year, month, day, h.1.1, h.1.2, h.2.1.1, h.2.1.2, h.2.2.1, h.2.2.2⟩
  else
    none

/-- The number of days from 1 January 1970 to the date. -/
def dayNumber (d : Date) : Int :=
  daysBeforeYear d.year + daysBeforeMonth (isLeapYear d.year) d.month + d.day - 719163

end Date

/-! ### The range of day numbers -/

/-- The number of the first day, `-262143-01-01`. -/
def minDayNumber : Int := -96465292

/-- The number of the last day, `+262142-12-31`. -/
def maxDayNumber : Int := 95026236

/-- Months lie within their year. -/
theorem daysBeforeMonth_add_le {leap : Bool} {month day : Nat} (hpos : 1 ≤ month)
    (hmonth : month ≤ 12) (hday : day ≤ monthLength leap month) :
    daysBeforeMonth leap month + day ≤ if leap then 366 else 365 := by
  have h : ∀ leap : Bool, ∀ m : Fin 12,
      daysBeforeMonth leap (m.val + 1) + monthLength leap (m.val + 1) ≤
        if leap then 366 else 365 := by decide
  have := h leap ⟨month - 1, by omega⟩
  simp only [Nat.sub_add_cancel hpos] at this
  omega

theorem Date.minDayNumber_le (d : Date) : minDayNumber ≤ d.dayNumber := by
  have h1 := d.minYear_le
  have h2 := d.one_le_day
  simp only [minYear, minDayNumber, dayNumber, daysBeforeYear] at *
  omega

theorem Date.le_maxDayNumber (d : Date) : d.dayNumber ≤ maxDayNumber := by
  have h1 := d.le_maxYear
  have h2 := daysBeforeMonth_add_le d.one_le_month d.month_le d.day_le
  simp only [maxYear, maxDayNumber, dayNumber, daysBeforeYear] at *
  by_cases hlast : d.year = 262142
  · have hleap : isLeapYear d.year = false := by rw [hlast]; decide
    rw [hleap] at h2 ⊢
    simp only [Bool.false_eq_true, if_false] at h2
    omega
  · split at h2 <;> omega

/-! ### Reading a day number back -/

/-- The year in which the day lies that comes the given number of days after 1 January of year 1.
The mean length of a year places it to within one year. -/
def yearOfDay (n : Int) : Int :=
  let guess := 400 * n / 146097 + 1
  if n < daysBeforeYear guess then guess - 1
  else if n < daysBeforeYear (guess + 1) then guess
  else guess + 1

/-- The month of the day that comes the given number of days after 1 January: as many months as
start at or before it. -/
def monthOfDay (leap : Bool) (n : Nat) : Nat :=
  (List.range' 1 12).countP fun month => daysBeforeMonth leap month ≤ n

/-- The year, month and day of the month of a day number. -/
def civil (n : Int) : Int × Nat × Nat :=
  let days := n + 719162
  let year := yearOfDay days
  let leap := isLeapYear year
  let dayOfYear := (days - daysBeforeYear year).toNat
  let month := monthOfDay leap dayOfYear
  (year, month, dayOfYear + 1 - daysBeforeMonth leap month)

/-- The date of a day number, if its year is in range. -/
def Date.ofDayNumber? (n : Int) : Option Date :=
  let (year, month, day) := civil n
  Date.of? year month day

/-- The day after the date, unless the date is the last one. -/
def Date.next? (d : Date) : Option Date :=
  Date.ofDayNumber? (d.dayNumber + 1)

end TrackCriteria.Calendar
