/-!
# Schemas

Where the track store keeps each field: the names of six tables and of their columns. The default
schema is what every part has that is not named otherwise.
-/

namespace TrackCriteria

/-- The table of tracks and its columns. -/
structure TracksTable where
  table : String
  id : String
  userId : String
  name : String
  explicit : String
  albumId : String
  dateAdded : String
deriving DecidableEq

/-- The table of albums and its columns. -/
structure AlbumsTable where
  table : String
  id : String
  name : String
  releaseDate : String
deriving DecidableEq

/-- A table of things that have a name: artists or labels. -/
structure NamedTable where
  table : String
  id : String
  name : String
deriving DecidableEq

/-- A table that links tracks with artists or with labels. -/
structure LinkTable where
  table : String
  trackId : String
  /-- The column that refers to the other side of the link. -/
  otherId : String
deriving DecidableEq

/-- The tables of the track store. -/
structure Schema where
  tracks : TracksTable
  albums : AlbumsTable
  artists : NamedTable
  trackArtists : LinkTable
  labels : NamedTable
  trackLabels : LinkTable
deriving DecidableEq

/-- The default schema. -/
def Schema.standard : Schema where
  tracks := ⟨"tracks", "id", "user_id", "name", "explicit", "album_id", "date_added"⟩
  albums := ⟨"albums", "id", "name", "release_date"⟩
  artists := ⟨"artists", "id", "name"⟩
  trackArtists := ⟨"track_artists", "track_id", "artist_id"⟩
  labels := ⟨"labels", "id", "name"⟩
  trackLabels := ⟨"track_labels", "track_id", "label_id"⟩

end TrackCriteria
