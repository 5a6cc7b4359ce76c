import TrackCriteria.Calendar.Date
import TrackCriteria.Formula

/-!
# Criteria

Smart criteria are formulas over tests of a single property of a track: a flag, a text that has to
be equal to one of the track's, or one of its two dates compared with an age or a calendar day.
-/

namespace TrackCriteria

/-! ### Properties of a track -/

/-- The texts of a track that criteria can ask for. -/
inductive TextField where
  | name
  | label
  | album
  | artist
deriving DecidableEq

/-- The word for a text field. -/
def TextField.keyword : TextField → String
  | .name => "name"
  | .label => "label"
  | .album => "album"
  | .artist => "artist"

/-- The dates of a track that criteria can compare. -/
inductive DateField where
  | added
  | released
deriving DecidableEq

/-- The word for a date field. -/
def DateField.keyword : DateField → String
  | .added => "added"
  | .released => "released"

/-! ### Comparisons with a date -/

/-- The comparison operators. -/
inductive Comparison where
  | eq
  | lt
  | le
  | gt
  | ge
deriving DecidableEq

/-- The operator as it is written. -/
def Comparison.symbol : Comparison → String
  | .eq => "="
  | .lt => "<"
  | .le => "<="
  | .gt => ">"
  | .ge => ">="

/-- The units in which an age is given. -/
inductive AgeUnit where
  | day
  | month
  | year
deriving DecidableEq

/-- The letter that stands for a unit. -/
def AgeUnit.letter : AgeUnit → Char
  | .day => 'd'
  | .month => 'm'
  | .year => 'y'

/-- The unit of a letter of either case. -/
def AgeUnit.ofLetter? (c : Char) : Option AgeUnit :=
  [AgeUnit.day, .month, .year].find? fun u => u.letter = c.toLower

/-- How a calendar day was written. A bare year stands for its 1 January. -/
inductive Precision where
  | year
  | day
deriving DecidableEq

/-- What a date is compared with. -/
inductive DateSpec where
  /-- So many units before now. -/
  | age (amount : UInt32) (unit : AgeUnit)
  /-- A day of the calendar. -/
  | calendar (date : Calendar.Date) (precision : Precision)
deriving DecidableEq

/-! ### Atoms and criteria -/

/-- A test of a single property of a track. -/
inductive Atom where
  | clean
  | explicit
  | unlabeled
  | text (field : TextField) (value : String)
  | date (field : DateField) (op : Comparison) (value : DateSpec)
deriving DecidableEq

/-- Smart criteria. -/
abbrev Criteria := Formula Atom

end TrackCriteria
