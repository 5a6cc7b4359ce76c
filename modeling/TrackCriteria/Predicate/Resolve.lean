import TrackCriteria.Calendar.Zone
import TrackCriteria.Criteria.Parser
import TrackCriteria.Predicate

/-!
# Resolving criteria

Criteria become a predicate at a point in time. An age of `N` units is resolved by two instants:
`back`, where the local clock showed the present time of day `N` units ago, and `ahead`, where it
will show it in `N` units.

| operator | age                            | calendar day `D`                   |
|----------|--------------------------------|------------------------------------|
| `=`      | after `back`, before `ahead`   | from the start of `D` to its end   |
| `<`      | after `back`                   | before the start of `D`            |
| `<=`     | not before `back`              | before the end of `D`              |
| `>`      | before `back`                  | not before the end of `D`          |
| `>=`     | not after `back`               | not before the start of `D`        |

Days start and end at midnight of the local clock. Where the calendar ends, an age reaches back to
the first instant and ahead to the last one.
-/

namespace TrackCriteria

open Calendar (Date Instant ZonedTime)

/-! ### Moving the clock -/

/-- The two directions of time. -/
inductive Direction where
  | back
  | ahead
deriving DecidableEq

namespace Direction

/-- A number of steps in the direction. -/
def signed (d : Direction) (steps : Nat) : Int :=
  match d with
  | .back => -(steps : Int)
  | .ahead => steps

/-- The end of time in the direction. -/
def limit : Direction → Instant
  | .back => .first
  | .ahead => .last

end Direction

/-- The clock reading a number of units later. A year is twelve months. -/
def AgeUnit.move? (unit : AgeUnit) (steps : Int) (wall : Instant) : Option Instant :=
  match unit with
  | .day => wall.addDays? steps
  | .month => wall.addMonths? steps
  | .year => wall.addMonths? (12 * steps)

/-- The instant that lies a number of units away from now on the local clock, or the end of time if
the clock does not go that far. -/
def Calendar.ZonedTime.shift (now : ZonedTime) (amount : UInt32) (unit : AgeUnit) (d : Direction) :
    Instant :=
  match now.wall?.bind (unit.move? (d.signed amount.toNat)) with
  | some wall => now.resolve wall
  | none => d.limit

/-- The start of a day on the local clock. -/
def Calendar.ZonedTime.startOfDay (now : ZonedTime) (date : Date) : Instant :=
  now.resolve (Instant.ofDate date)

/-- The end of a day on the local clock: the start of the next one. The last day of the calendar
ends at the end of time. -/
def Calendar.ZonedTime.endOfDay (now : ZonedTime) (date : Date) : Instant :=
  match date.next? with
  | some next => now.startOfDay next
  | none => .last

/-! ### Resolving comparisons -/

/-- A test of a date as a predicate. -/
def boundedDate (field : DateField) (kind : Bound.Kind) (instant : Instant) : Predicate :=
  .atom (.date field ⟨kind, instant⟩)

/-- A comparison with an age. -/
def resolveAge (field : DateField) (op : Comparison) (back ahead : Instant) : Predicate :=
  match op with
  | .eq => .and (boundedDate field .greaterThan back) (boundedDate field .lessThan ahead)
  | .lt => boundedDate field .greaterThan back
  | .le => boundedDate field .greaterOrEqual back
  | .gt => boundedDate field .lessThan back
  | .ge => boundedDate field .lessOrEqual back

/-- A comparison with a calendar day. -/
def resolveDay (field : DateField) (op : Comparison) (start stop : Instant) : Predicate :=
  match op with
  | .eq => .and (boundedDate field .greaterOrEqual start) (boundedDate field .lessThan stop)
  | .lt => boundedDate field .lessThan start
  | .le => boundedDate field .lessThan stop
  | .gt => boundedDate field .greaterOrEqual stop
  | .ge => boundedDate field .greaterOrEqual start

/-- A comparison of a date at a point in time. -/
def DateSpec.resolve (now : ZonedTime) (field : DateField) (op : Comparison) :
    DateSpec → Predicate
  | .age amount unit =>
    resolveAge field op (now.shift amount unit .back) (now.shift amount unit .ahead)
  | .calendar date _ =>
    resolveDay field op (now.startOfDay date) (now.endOfDay date)

/-- An atom at a point in time. -/
def Atom.resolve (now : ZonedTime) : Atom → Predicate
  | .clean => .atom .clean
  | .explicit => .atom .explicit
  | .unlabeled => .atom .unlabeled
  | .text field value => .atom (.text field value)
  | .date field op value => value.resolve now field op

/-- Criteria at a point in time. -/
def Criteria.resolve (c : Criteria) (now : ZonedTime) : Predicate :=
  c.bind (Atom.resolve now)

/-! ### From source to predicate -/

/-- The predicate that a source spells at a point in time. -/
def Predicate.ofSource (source : String) (now : ZonedTime) : Except SyntaxError Predicate :=
  (Criteria.parse source).map (·.resolve now)

/-- The filter that a source spells at a point in time. Blank input asks for no filter. -/
def Predicate.filterOfSource (source : String) (now : ZonedTime) :
    Except SyntaxError (Option Predicate) :=
  if Text.isBlank source then .ok none else (Predicate.ofSource source now).map some

end TrackCriteria
