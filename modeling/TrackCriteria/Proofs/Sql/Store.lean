import TrackCriteria.Proofs.Sql.Evaluation
import TrackCriteria.Schema
import TrackCriteria.Track

/-!
# The track store

A store keeps tracks, albums, artists and labels in the tables that a schema names. Tracks refer to
their album, and links refer to a track and to an artist or a label. From a row of the table of
tracks and the rows that it is related to a `Track` is made (`Store.track`).
-/

namespace TrackCriteria

open Calendar (Instant)
open Sql (Datum Row Tables)

/-! ### Rows of the six tables -/

/-- A row of the table of tracks has all its columns, each with a datum of its type. -/
structure TracksTable.Fits (t : TracksTable) (row : Row) : Prop where
  id : ∃ d, row t.id = some d
  userId : ∃ n, row t.userId = some (.number n)
  name : ∃ v, row t.name = some (.text v)
  explicit : ∃ b, row t.explicit = some (.bool b)
  albumId : ∃ d, row t.albumId = some d
  dateAdded : ∃ i, row t.dateAdded = some (.instant i)

/-- A row of the table of albums has all its columns, each with a datum of its type. -/
structure AlbumsTable.Fits (t : AlbumsTable) (row : Row) : Prop where
  id : ∃ d, row t.id = some d
  name : ∃ v, row t.name = some (.text v)
  releaseDate : ∃ i, row t.releaseDate = some (.instant i)

/-- A row of a table of artists or labels has all its columns, each with a datum of its type. -/
structure NamedTable.Fits (t : NamedTable) (row : Row) : Prop where
  id : ∃ d, row t.id = some d
  name : ∃ v, row t.name = some (.text v)

/-- A row of a link table has both its columns. -/
structure LinkTable.Fits (t : LinkTable) (row : Row) : Prop where
  trackId : ∃ d, row t.trackId = some d
  otherId : ∃ d, row t.otherId = some d

/-! ### Keys and references -/

/-- No two rows hold the same in a column. -/
def IsKey (column : String) (rows : List Row) : Prop :=
  (rows.map fun row => row column).Nodup

/-- What a row holds in a column, some row of a table holds in its key. -/
def RefersTo (row : Row) (column : String) (rows : List Row) (key : String) : Prop :=
  ∃ other ∈ rows, other key = row column

instance (column : String) (rows : List Row) : Decidable (IsKey column rows) :=
  inferInstanceAs (Decidable (List.Nodup _))

instance (row : Row) (column : String) (rows : List Row) (key : String) :
    Decidable (RefersTo row column rows key) :=
  inferInstanceAs (Decidable (∃ other ∈ rows, _))

/-- The tables of a schema by their names. -/
def Schema.tableNames (s : Schema) : List String :=
  [s.tracks.table, s.albums.table, s.artists.table, s.trackArtists.table, s.labels.table,
   s.trackLabels.table]

/-- The contents of the tables of a schema. -/
structure Store (s : Schema) where
  /-- The rows of each table. -/
  tables : Tables
  tracks_fit : ∀ row ∈ tables s.tracks.table, s.tracks.Fits row
  albums_fit : ∀ row ∈ tables s.albums.table, s.albums.Fits row
  artists_fit : ∀ row ∈ tables s.artists.table, s.artists.Fits row
  labels_fit : ∀ row ∈ tables s.labels.table, s.labels.Fits row
  trackArtists_fit : ∀ row ∈ tables s.trackArtists.table, s.trackArtists.Fits row
  trackLabels_fit : ∀ row ∈ tables s.trackLabels.table, s.trackLabels.Fits row
  tracks_key : IsKey s.tracks.id (tables s.tracks.table)
  albums_key : IsKey s.albums.id (tables s.albums.table)
  artists_key : IsKey s.artists.id (tables s.artists.table)
  labels_key : IsKey s.labels.id (tables s.labels.table)
  tracks_album : ∀ row ∈ tables s.tracks.table,
    RefersTo row s.tracks.albumId (tables s.albums.table) s.albums.id
  trackArtists_track : ∀ row ∈ tables s.trackArtists.table,
    RefersTo row s.trackArtists.trackId (tables s.tracks.table) s.tracks.id
  trackArtists_artist : ∀ row ∈ tables s.trackArtists.table,
    RefersTo row s.trackArtists.otherId (tables s.artists.table) s.artists.id
  trackLabels_track : ∀ row ∈ tables s.trackLabels.table,
    RefersTo row s.trackLabels.trackId (tables s.tracks.table) s.tracks.id
  trackLabels_label : ∀ row ∈ tables s.trackLabels.table,
    RefersTo row s.trackLabels.otherId (tables s.labels.table) s.labels.id

/-! ### Reading data -/

namespace Sql.Row

/-- The text in a column; the empty one if there is none. -/
def text (row : Row) (column : String) : String :=
  match row column with
  | some (.text v) => v
  | _ => ""

/-- The truth value in a column; `false` if there is none. -/
def bool (row : Row) (column : String) : Bool :=
  match row column with
  | some (.bool b) => b
  | _ => false

/-- The instant in a column; the first one if there is none. -/
def instant (row : Row) (column : String) : Instant :=
  match row column with
  | some (.instant i) => i
  | _ => .first

theorem eq_text {row : Row} {column : String} (h : ∃ v, row column = some (.text v)) :
    row column = some (.text (row.text column)) := by
  obtain ⟨v, hv⟩ := h
  rw [text, hv]

theorem eq_bool {row : Row} {column : String} (h : ∃ b, row column = some (.bool b)) :
    row column = some (.bool (row.bool column)) := by
  obtain ⟨b, hb⟩ := h
  rw [bool, hb]

theorem eq_instant {row : Row} {column : String} (h : ∃ i, row column = some (.instant i)) :
    row column = some (.instant (row.instant column)) := by
  obtain ⟨i, hi⟩ := h
  rw [instant, hi]

end Sql.Row

/-! ### Tracks -/

namespace Store

variable {s : Schema} (store : Store s)

/-- The rows of the table of tracks. -/
def tracks : List Row := store.tables s.tracks.table

/-- The row of the album of a track; a row without columns if there is none. -/
def albumOf (row : Row) : Row :=
  ((store.tables s.albums.table).find? fun album => album s.albums.id = row s.tracks.albumId).getD
    fun _ => none

/-- The links of a track in a link table. -/
def linksOf (link : LinkTable) (row : Row) : List Row :=
  (store.tables link.table).filter fun l => l link.trackId = row s.tracks.id

/-- The names of the artists or labels that a link table links a track with. -/
def namesOf (link : LinkTable) (other : NamedTable) (row : Row) : List String :=
  (store.linksOf link row).flatMap fun l =>
    ((store.tables other.table).filter fun o => o other.id = l link.otherId).map
      fun o => o.text other.name

/-- The track that a row of the table of tracks stands for. -/
def track (row : Row) : Track where
  name := row.text s.tracks.name
  explicit := row.bool s.tracks.explicit
  album := (store.albumOf row).text s.albums.name
  artists := store.namesOf s.trackArtists s.artists row
  labels := store.namesOf s.trackLabels s.labels row
  dateAdded := row.instant s.tracks.dateAdded
  dateReleased := (store.albumOf row).instant s.albums.releaseDate

end Store

end TrackCriteria
