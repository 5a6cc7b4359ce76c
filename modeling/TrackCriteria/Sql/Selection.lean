import TrackCriteria.Predicate
import TrackCriteria.Schema
import TrackCriteria.Sql.Query

/-!
# From predicates to queries

A predicate becomes a condition on the rows of the table of tracks. Tests of the track itself
compare its columns; tests of its album ask whether the album is among those that pass; tests of its
labels and artists ask whether there is a link from the track to one that passes.
-/

namespace TrackCriteria

open Sql

/-! ### Comparisons -/

/-- A column that is equal to a value. -/
def Sql.Column.isEqual (c : Column) (v : Value) : Relation :=
  ⟨c, .eq, .value v⟩

/-- The comparison that a bound asks for. -/
def Bound.Kind.comparison : Bound.Kind → Comparison
  | .greaterThan => .gt
  | .greaterOrEqual => .ge
  | .lessThan => .lt
  | .lessOrEqual => .le

/-- A column whose instant lies within a bound. -/
def Sql.Column.within (c : Column) (b : Bound) : Relation :=
  ⟨c, b.kind.comparison, .value (.instant b.instant)⟩

namespace Schema

/-- A column of the table of tracks. -/
def track (s : Schema) (name : TracksTable → String) : Column :=
  ⟨s.tracks.table, name s.tracks⟩

/-- A column of the table of albums. -/
def album (s : Schema) (name : AlbumsTable → String) : Column :=
  ⟨s.albums.table, name s.albums⟩

/-! ### Subqueries -/

/-- Whether the album of the track satisfies a condition. -/
def albumWhere (s : Schema) (condition : Relation) : Leaf :=
  .inSubquery (s.track (·.albumId))
    ⟨.column (s.album (·.id)), s.albums.table, none, [condition]⟩

/-- The links of the track in a link table. -/
def ofTrack (s : Schema) (link : LinkTable) : Relation :=
  ⟨⟨link.table, link.trackId⟩, .eq, .column (s.track (·.id))⟩

/-- The links of the track in a link table. -/
def links (s : Schema) (link : LinkTable) : Subquery :=
  ⟨.value (.int 1), link.table, none, [s.ofTrack link]⟩

/-- The links of the track in a link table to things of a name. -/
def linksTo (s : Schema) (link : LinkTable) (other : NamedTable) (name : String) : Subquery :=
  ⟨.value (.int 1), link.table,
    some ⟨other.table, ⟨other.table, other.id⟩, ⟨link.table, link.otherId⟩⟩,
    [s.ofTrack link, Column.isEqual ⟨other.table, other.name⟩ (.string name)]⟩

/-! ### Conditions -/

/-- A test as a condition. -/
def testCondition (s : Schema) : Test → Condition
  | .clean => .atom (.relation ((s.track (·.explicit)).isEqual (.bool false)))
  | .explicit => .atom (.relation ((s.track (·.explicit)).isEqual (.bool true)))
  | .unlabeled => .not (.atom (.exists (s.links s.trackLabels)))
  | .text .name value => .atom (.relation ((s.track (·.name)).isEqual (.string value)))
  | .text .label value => .atom (.exists (s.linksTo s.trackLabels s.labels value))
  | .text .album value => .atom (s.albumWhere ((s.album (·.name)).isEqual (.string value)))
  | .text .artist value => .atom (.exists (s.linksTo s.trackArtists s.artists value))
  | .date .added bound => .atom (.relation ((s.track (·.dateAdded)).within bound))
  | .date .released bound => .atom (s.albumWhere ((s.album (·.releaseDate)).within bound))

/-- A predicate as a condition. -/
def condition (s : Schema) (p : Predicate) : Condition :=
  p.bind s.testCondition

@[simp]
theorem condition_atom (s : Schema) (t : Test) : s.condition (.atom t) = s.testCondition t := rfl

@[simp]
theorem condition_not (s : Schema) (p : Predicate) :
    s.condition (.not p) = .not (s.condition p) := rfl

@[simp]
theorem condition_and (s : Schema) (p q : Predicate) :
    s.condition (.and p q) = .and (s.condition p) (s.condition q) := rfl

@[simp]
theorem condition_or (s : Schema) (p q : Predicate) :
    s.condition (.or p q) = .or (s.condition p) (s.condition q) := rfl

/-- The tracks of a user that satisfy a predicate, if there is one, and at most so many of them, if
there is a limit. -/
def selectTracks (s : Schema) (predicate : Option Predicate) (userId : Int)
    (limit : Option Nat) : Select :=
  ⟨s.tracks.table, (s.track (·.userId)).isEqual (.bigint userId), predicate.map s.condition, limit⟩

end Schema

end TrackCriteria
