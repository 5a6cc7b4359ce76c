import TrackCriteria.Json.Reader
import TrackCriteria.Json.Writer
import TrackCriteria.Schema

/-!
# Schemas as JSON

A schema file names what differs from the default schema. Each of the six tables may be left out,
and so may each column, apart from the name of the table of artists, labels or a link and the column
of a link that refers to the other side: those have no default inside a table that is named.
-/

namespace TrackCriteria

open Json (Reader)
open Json.Reader (malformed record RecordField)

/-! ### Writing -/

/-- An object of strings. -/
def Json.strings (members : List (String × String)) : Json :=
  .object (members.map fun (key, value) => (key, .string value))

/-- The table of tracks as JSON. -/
def TracksTable.toJson (t : TracksTable) : Json :=
  .strings [("table", t.table), ("id", t.id), ("user_id", t.userId), ("name", t.name),
    ("explicit", t.explicit), ("album_id", t.albumId), ("date_added", t.dateAdded)]

/-- The table of albums as JSON. -/
def AlbumsTable.toJson (t : AlbumsTable) : Json :=
  .strings [("table", t.table), ("id", t.id), ("name", t.name), ("release_date", t.releaseDate)]

/-- A table of named things as JSON. -/
def NamedTable.toJson (t : NamedTable) : Json :=
  .strings [("table", t.table), ("id", t.id), ("name", t.name)]

/-- A link table as JSON. -/
def LinkTable.toJson (t : LinkTable) : Json :=
  .strings [("table", t.table), ("track_id", t.trackId), ("other_id", t.otherId)]

/-- A schema as JSON. -/
def Schema.toJson (s : Schema) : Json :=
  .object [("tracks", s.tracks.toJson), ("albums", s.albums.toJson),
    ("artists", s.artists.toJson), ("track_artists", s.trackArtists.toJson),
    ("labels", s.labels.toJson), ("track_labels", s.trackLabels.toJson)]

/-! ### Reading a table -/

/-- The columns that have been read, by name, the last one first. -/
abbrev Columns := List (String × String)

/-- The field of a column. -/
def columnField (name : String) (required : Bool) : RecordField Columns :=
  ⟨name, required, fun s => (s.lookup name).isSome, fun _ s => do
    return (name, ← Json.Reader.string) :: s⟩

/-- The columns of a table; which of them have to be there is said beside their names. -/
def columns (names : List (String × Bool)) (levels : Nat) : Reader Columns :=
  record (names.map fun (name, required) => columnField name required) levels []

/-- A column that has been read, or what stands for it. -/
def Columns.get (s : Columns) (name default : String) : String :=
  (s.lookup name).getD default

/-- The table of tracks. -/
def TracksTable.reader (levels : Nat) : Reader TracksTable := do
  let s ← columns [("table", false), ("id", false), ("user_id", false), ("name", false),
    ("explicit", false), ("album_id", false), ("date_added", false)] levels
  let d := Schema.standard.tracks
  return ⟨s.get "table" d.table, s.get "id" d.id, s.get "user_id" d.userId, s.get "name" d.name,
    s.get "explicit" d.explicit, s.get "album_id" d.albumId, s.get "date_added" d.dateAdded⟩

/-- The table of albums. -/
def AlbumsTable.reader (levels : Nat) : Reader AlbumsTable := do
  let s ← columns [("table", false), ("id", false), ("name", false), ("release_date", false)] levels
  let d := Schema.standard.albums
  return ⟨s.get "table" d.table, s.get "id" d.id, s.get "name" d.name,
    s.get "release_date" d.releaseDate⟩

/-- A table of named things. -/
def NamedTable.reader (levels : Nat) : Reader NamedTable := do
  let s ← columns [("table", true), ("id", false), ("name", false)] levels
  return ⟨s.get "table" "", s.get "id" "id", s.get "name" "name"⟩

/-- A link table. -/
def LinkTable.reader (levels : Nat) : Reader LinkTable := do
  let s ← columns [("table", true), ("track_id", false), ("other_id", true)] levels
  return ⟨s.get "table" "", s.get "track_id" "track_id", s.get "other_id" ""⟩

/-! ### Reading a schema -/

/-- The tables that have been read. -/
structure Schema.Parts where
  tracks : Option TracksTable
  albums : Option AlbumsTable
  artists : Option NamedTable
  trackArtists : Option LinkTable
  labels : Option NamedTable
  trackLabels : Option LinkTable

/-- The fields of a schema. -/
def Schema.Parts.fields : List (RecordField Schema.Parts) :=
  [⟨"tracks", false, (·.tracks.isSome), fun levels s => do
      return { s with tracks := some (← TracksTable.reader levels) }⟩,
   ⟨"albums", false, (·.albums.isSome), fun levels s => do
      return { s with albums := some (← AlbumsTable.reader levels) }⟩,
   ⟨"artists", false, (·.artists.isSome), fun levels s => do
      return { s with artists := some (← NamedTable.reader levels) }⟩,
   ⟨"track_artists", false, (·.trackArtists.isSome), fun levels s => do
      return { s with trackArtists := some (← LinkTable.reader levels) }⟩,
   ⟨"labels", false, (·.labels.isSome), fun levels s => do
      return { s with labels := some (← NamedTable.reader levels) }⟩,
   ⟨"track_labels", false, (·.trackLabels.isSome), fun levels s => do
      return { s with trackLabels := some (← LinkTable.reader levels) }⟩]

/-- The schema with the tables that have been read and the default ones in place of the others. -/
def Schema.Parts.toSchema (p : Schema.Parts) : Schema where
  tracks := p.tracks.getD Schema.standard.tracks
  albums := p.albums.getD Schema.standard.albums
  artists := p.artists.getD Schema.standard.artists
  trackArtists := p.trackArtists.getD Schema.standard.trackArtists
  labels := p.labels.getD Schema.standard.labels
  trackLabels := p.trackLabels.getD Schema.standard.trackLabels

/-- A schema that may be nested so many levels deep. -/
def Schema.reader (levels : Nat) : Reader Schema := do
  let parts ← record Schema.Parts.fields levels ⟨none, none, none, none, none, none⟩
  return parts.toSchema

/-- The schema of a JSON text. -/
def Schema.ofJson (text : String) : Except Json.Fault Schema :=
  Json.read Schema.reader text

/-! ### Schema files -/

/-- Why a schema file cannot be used. -/
inductive Schema.LoadError where
  /-- There is no such file. -/
  | notFound
  /-- The bytes of the file are not UTF-8. -/
  | notText
  /-- The text of the file is rejected. -/
  | json (fault : Json.Fault)
deriving DecidableEq

/-- The schema of a file, given the file's bytes if there is such a file. -/
def Schema.load (file : Option ByteArray) : Except Schema.LoadError Schema :=
  match file with
  | none => .error .notFound
  | some bytes =>
    match String.fromUTF8? bytes with
    | none => .error .notText
    | some text => (Schema.ofJson text).mapError .json

end TrackCriteria
