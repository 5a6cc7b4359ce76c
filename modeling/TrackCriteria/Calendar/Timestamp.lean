import TrackCriteria.Calendar.Zone
import TrackCriteria.Text.Decimal

/-!
# Timestamps

The text forms of instants, all with the fields year, month, day, hour, minute and second.

* The interchange form `2020-01-02T03:04:05.5Z` has as many fraction digits of 0, 3, 6 and 9 as lose
  nothing. A year outside 0 to 9999 carries a sign. A leap second is second 60.
* The zoned form ends in the offset of the zone instead of `Z`.
* The query form `2020-01-02 03:04:05.500000 +00:00` has six fraction digits, the rest cut off.
-/

namespace TrackCriteria.Calendar

open Text.Decimal (padded)

namespace Timestamp

/-- A year: four digits, and a sign in front if they are not enough or the year is negative. -/
def yearText (year : Int) : String :=
  if 0 ≤ year ∧ year ≤ 9999 then padded 4 year.toNat
  else (if year < 0 then "-" else "+") ++ padded 4 year.natAbs

/-- The year, month and day of a second, separated by `-`. -/
def dateText (seconds : Int) : String :=
  let (year, month, day) := civil (seconds / secondsPerDay)
  yearText year ++ "-" ++ padded 2 month ++ "-" ++ padded 2 day

/-- The hour, minute and second of a second, separated by `:`. A thousand million nanoseconds or
more are a leap second and raise the second by one. -/
def timeText (seconds : Int) (nanos : Nat) : String :=
  let ofDay := (seconds % secondsPerDay).toNat
  let second := ofDay % 60 + nanos / 1000000000
  padded 2 (ofDay / 3600) ++ ":" ++ padded 2 (ofDay / 60 % 60) ++ ":" ++ padded 2 second

/-- The fraction of the second, in the fewest groups of three digits that lose nothing. -/
def fractionText (nanos : Nat) : String :=
  let nanos := nanos % 1000000000
  if nanos = 0 then ""
  else if nanos % 1000000 = 0 then "." ++ padded 3 (nanos / 1000000)
  else if nanos % 1000 = 0 then "." ++ padded 6 (nanos / 1000)
  else "." ++ padded 9 nanos

/-- A date and time without the offset from UTC. -/
def dateTimeText (seconds : Int) (nanos : Nat) : String :=
  dateText seconds ++ "T" ++ timeText seconds nanos ++ fractionText nanos

/-- An offset from UTC in hours and minutes. -/
def offsetText (offset : Offset) : String :=
  let minutes := offset.seconds.natAbs / 60
  (if offset.seconds < 0 then "-" else "+") ++ padded 2 (minutes / 60) ++ ":" ++
    padded 2 (minutes % 60)

end Timestamp

namespace Instant

/-- The interchange form of an instant. -/
def text (t : Instant) : String :=
  Timestamp.dateTimeText t.seconds t.nanos ++ "Z"

/-- The query form of an instant. -/
def queryText (t : Instant) : String :=
  Timestamp.dateText t.seconds ++ " " ++ Timestamp.timeText t.seconds t.nanos ++ "." ++
    padded 6 (t.nanos % 1000000000 / 1000) ++ " +00:00"

end Instant

/-- The zoned form: what a clock in the zone shows, and its offset. -/
def ZonedTime.text (now : ZonedTime) : String :=
  Timestamp.dateTimeText (now.instant.seconds + now.offset.seconds) now.instant.nanos ++
    Timestamp.offsetText now.offset

end TrackCriteria.Calendar
