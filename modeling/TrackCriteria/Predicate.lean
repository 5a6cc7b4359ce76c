import TrackCriteria.Track

/-!
# Predicates

A predicate is a formula like criteria are, but its dates are bounds on instants: nothing in it
depends on the time at which it is evaluated.
-/

namespace TrackCriteria

open Calendar (Instant)

/-! ### Bounds -/

/-- On which side of an instant a bound lies, and whether the instant itself belongs to it. -/
inductive Bound.Kind where
  | greaterThan
  | greaterOrEqual
  | lessThan
  | lessOrEqual
deriving DecidableEq

/-- A one-sided bound on instants. -/
structure Bound where
  kind : Bound.Kind
  instant : Instant
deriving DecidableEq

/-- Whether an instant lies within the bound. -/
def Bound.contains (b : Bound) (t : Instant) : Bool :=
  match b.kind with
  | .greaterThan => b.instant < t
  | .greaterOrEqual => b.instant ≤ t
  | .lessThan => t < b.instant
  | .lessOrEqual => t ≤ b.instant

/-! ### Tests and predicates -/

/-- A test of a single property of a track, at any time the same. -/
inductive Test where
  | clean
  | explicit
  | unlabeled
  | text (field : TextField) (value : String)
  | date (field : DateField) (bound : Bound)
deriving DecidableEq

/-- Whether a track passes a test. -/
def Test.matches (track : Track) : Test → Bool
  | .clean => !track.explicit
  | .explicit => track.explicit
  | .unlabeled => track.labels.isEmpty
  | .text field value => (track.texts field).contains value
  | .date field bound => bound.contains (track.date field)

/-- Criteria with every date resolved. -/
abbrev Predicate := Formula Test

/-- Whether a track satisfies a predicate. -/
def Predicate.matches (p : Predicate) (track : Track) : Bool :=
  p.eval (Test.matches track)

end TrackCriteria
