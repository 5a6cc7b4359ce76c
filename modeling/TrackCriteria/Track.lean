import TrackCriteria.Calendar.Instant
import TrackCriteria.Criteria.Basic

/-!
# Tracks

A saved track of a user, together with its album, its artists and the labels assigned to it.
-/

namespace TrackCriteria

/-- A saved track. -/
structure Track where
  name : String
  explicit : Bool
  album : String
  artists : List String
  /-- The names of the labels assigned to the track. -/
  labels : List String
  dateAdded : Calendar.Instant
  /-- The date on which the album was released. -/
  dateReleased : Calendar.Instant
deriving DecidableEq

namespace Track

/-- A date of the track. -/
def date (t : Track) : DateField → Calendar.Instant
  | .added => t.dateAdded
  | .released => t.dateReleased

/-- The texts of the track that a text field stands for. -/
def texts (t : Track) : TextField → List String
  | .name => [t.name]
  | .label => t.labels
  | .album => [t.album]
  | .artist => t.artists

end Track

end TrackCriteria
