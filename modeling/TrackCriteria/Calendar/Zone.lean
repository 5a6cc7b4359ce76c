import TrackCriteria.Calendar.Instant

/-!
# Time zones

A zone tells by how much its clocks are ahead of UTC at each instant: an initial offset, and
transitions at which the offset changes. A zone without transitions has the same offset always.

A clock reading may belong to several instants, when clocks are put back, or to none, when they are
put forward. `ZonedTime.resolve` chooses one: the earliest instant that shows the reading; else the
one that would show it at the offset of now; else the instant at which a clock in UTC shows it.
-/

namespace TrackCriteria.Calendar

/-- How far a clock is ahead of UTC: less than a day either way. -/
structure Offset where
  /-- The seconds that the clock is ahead of UTC. -/
  seconds : Int
  neg_day_lt : -secondsPerDay < seconds
  lt_day : seconds < secondsPerDay
deriving DecidableEq

namespace Offset

/-- The offset of a number of seconds, if that is less than a day. -/
def of? (seconds : Int) : Option Offset :=
  if h : -secondsPerDay < seconds ∧ seconds < secondsPerDay then some ⟨seconds, h.1, h.2⟩ else none

/-- The offset of UTC itself. -/
def utc : Offset := ⟨0, by decide, by decide⟩

end Offset

/-- The offset that a zone has from a second of UTC on. -/
structure Transition where
  start : Int
  offset : Offset
deriving DecidableEq

/-- A time zone. Its transitions are in ascending order. -/
structure Zone where
  initial : Offset
  transitions : List Transition
deriving DecidableEq

namespace Zone

/-- The zone with one offset at all times. -/
def fixed (offset : Offset) : Zone := ⟨offset, []⟩

/-- The offset at a second of UTC: that of the last transition that has happened, or else the
initial one. -/
def offsetAt (z : Zone) (seconds : Int) : Offset :=
  z.transitions.foldl (fun o t => if t.start ≤ seconds then t.offset else o) z.initial

/-- Every offset that the zone has at some time. -/
def offsets (z : Zone) : List Offset :=
  z.initial :: z.transitions.map (·.offset)

/-- The instants at which clocks in the zone show a reading. -/
def instantsShowing (z : Zone) (wall : Instant) : List Instant :=
  z.offsets.filterMap fun o =>
    (wall.withSeconds? (wall.seconds - o.seconds)).filter fun t => z.offsetAt t.seconds = o

end Zone

/-- The earliest of some instants. -/
def earliest? : List Instant → Option Instant
  | [] => none
  | t :: ts => some (ts.foldl (fun a b => if b < a then b else a) t)

/-- An instant together with the zone in which it is looked at. -/
structure ZonedTime where
  instant : Instant
  zone : Zone
deriving DecidableEq

namespace ZonedTime

/-- The offset in force. -/
def offset (now : ZonedTime) : Offset :=
  now.zone.offsetAt now.instant.seconds

/-- What a clock in the zone shows, if that is in the range of the calendar. -/
def wall? (now : ZonedTime) : Option Instant :=
  now.instant.withSeconds? (now.instant.seconds + now.offset.seconds)

/-- The instant that a clock reading in the zone of `now` stands for. -/
def resolve (now : ZonedTime) (wall : Instant) : Instant :=
  match earliest? (now.zone.instantsShowing wall) with
  | some t => t
  | none => (wall.withSeconds? (wall.seconds - now.offset.seconds)).getD wall

end ZonedTime

end TrackCriteria.Calendar
