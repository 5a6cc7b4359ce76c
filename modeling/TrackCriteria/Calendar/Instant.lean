import TrackCriteria.Calendar.Date

/-!
# Instants

An `Instant` is a point in time to the nanosecond, between the first moment of the first day of the
calendar and the last moment of its last day. Seconds are counted from the start of 1970 in UTC and
every day has 86400 of them. A leap second is the second before it with a fraction of one second or
more, so it comes after that second and before the next one.

The time that a clock shows is kept as the instant at which a clock in UTC shows it. Moving a clock
by days, months or years gives no result outside the range of the calendar.
-/

namespace TrackCriteria.Calendar

/-- The number of seconds of a day. -/
def secondsPerDay : Int := 86400

/-- The first second of the first day, `-262143-01-01T00:00:00`. -/
def minSeconds : Int := -8334601228800

/-- The last second of the last day, `+262142-12-31T23:59:59`. -/
def maxSeconds : Int := 8210266876799

/-- Every day starts in range, and its last second is in range too. -/
theorem Date.minSeconds_le (d : Date) : minSeconds ≤ d.dayNumber * secondsPerDay := by
  have := d.minDayNumber_le
  simp only [minDayNumber, minSeconds, secondsPerDay] at *
  omega

theorem Date.le_maxSeconds (d : Date) : d.dayNumber * secondsPerDay ≤ maxSeconds := by
  have := d.le_maxDayNumber
  simp only [maxDayNumber, maxSeconds, secondsPerDay] at *
  omega

/-- A point in time. -/
structure Instant where
  /-- The whole seconds since the start of 1970 in UTC. -/
  seconds : Int
  /-- The nanoseconds after the whole second; a thousand million or more in a leap second. -/
  nanos : Nat
  minSeconds_le : minSeconds ≤ seconds
  le_maxSeconds : seconds ≤ maxSeconds
  nanos_lt : nanos < 2000000000
deriving DecidableEq

namespace Instant

/-! ### Order -/

/-- Instants are ordered by their seconds, and within a second by their nanoseconds. -/
instance : LT Instant :=
  ⟨fun a b => a.seconds < b.seconds ∨ (a.seconds = b.seconds ∧ a.nanos < b.nanos)⟩

instance : LE Instant :=
  ⟨fun a b => a.seconds < b.seconds ∨ (a.seconds = b.seconds ∧ a.nanos ≤ b.nanos)⟩

theorem lt_def {a b : Instant} :
    a < b ↔ a.seconds < b.seconds ∨ (a.seconds = b.seconds ∧ a.nanos < b.nanos) := Iff.rfl

theorem le_def {a b : Instant} :
    a ≤ b ↔ a.seconds < b.seconds ∨ (a.seconds = b.seconds ∧ a.nanos ≤ b.nanos) := Iff.rfl

instance (a b : Instant) : Decidable (a < b) := decidable_of_iff' _ lt_def

instance (a b : Instant) : Decidable (a ≤ b) := decidable_of_iff' _ le_def

/-! ### The ends of time -/

/-- The first instant. -/
def first : Instant := ⟨minSeconds, 0, by decide, by decide, by decide⟩

/-- The last instant that is not in a leap second. -/
def last : Instant := ⟨maxSeconds, 999999999, by decide, by decide, by decide⟩

/-! ### Moving an instant -/

/-- The instant with other whole seconds and the same nanoseconds, if it is in range. -/
def withSeconds? (t : Instant) (seconds : Int) : Option Instant :=
  if h : minSeconds ≤ seconds ∧ seconds ≤ maxSeconds then
    some ⟨seconds, t.nanos, h.1, h.2, t.nanos_lt⟩
  else
    none

/-- The start of a day. -/
def ofDate (d : Date) : Instant :=
  ⟨d.dayNumber * secondsPerDay, 0, d.minSeconds_le, d.le_maxSeconds, by decide⟩

/-- The same time of day, a number of days later. -/
def addDays? (t : Instant) (days : Int) : Option Instant :=
  t.withSeconds? (t.seconds + days * secondsPerDay)

/-- The same time of day, a number of months later: on the same day of the month, or on the last
one if the month is too short. -/
def addMonths? (t : Instant) (months : Int) : Option Instant := do
  let (year, month, day) := civil (t.seconds / secondsPerDay)
  let index := 12 * year + (month - 1) + months
  let newYear := index / 12
  let newMonth := (index % 12).toNat + 1
  let newDay := min day (monthLength (isLeapYear newYear) newMonth)
  let date ← Date.of? newYear newMonth newDay
  t.withSeconds? (date.dayNumber * secondsPerDay + t.seconds % secondsPerDay)

end Instant

end TrackCriteria.Calendar
