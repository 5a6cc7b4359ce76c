import TrackCriteria.Predicate.Json
import TrackCriteria.Track

/-!
# Tracks as JSON

A track is a record. Its flag and its two lists may be left out; then it is clean, without artists
and without labels.
-/

namespace TrackCriteria

open Calendar (Instant)
open Json (Reader)
open Json.Reader (malformed RecordField)

namespace Track

/-- A track as JSON. -/
def toJson (t : Track) : Json :=
  .object [("name", .string t.name), ("explicit", .bool t.explicit), ("album", .string t.album),
    ("artists", .array (t.artists.map .string)), ("labels", .array (t.labels.map .string)),
    ("date_added", .string t.dateAdded.text), ("date_released", .string t.dateReleased.text)]

/-- The parts of a track that have been read. -/
structure Parts where
  name : Option String
  explicit : Option Bool
  album : Option String
  artists : Option (List String)
  labels : Option (List String)
  dateAdded : Option Instant
  dateReleased : Option Instant

/-- A list of strings. -/
def stringList (levels : Nat) : Reader (List String) :=
  Json.Reader.list levels fun _ => Json.Reader.string

/-- The fields of a track. -/
def Parts.fields : List (RecordField Parts) :=
  [⟨"name", true, (·.name.isSome), fun _ s => do
      return { s with name := some (← Json.Reader.string) }⟩,
   ⟨"explicit", false, (·.explicit.isSome), fun _ s => do
      return { s with explicit := some (← Json.Reader.bool) }⟩,
   ⟨"album", true, (·.album.isSome), fun _ s => do
      return { s with album := some (← Json.Reader.string) }⟩,
   ⟨"artists", false, (·.artists.isSome), fun levels s => do
      return { s with artists := some (← stringList levels) }⟩,
   ⟨"labels", false, (·.labels.isSome), fun levels s => do
      return { s with labels := some (← stringList levels) }⟩,
   ⟨"date_added", true, (·.dateAdded.isSome), fun _ s => do
      return { s with dateAdded := some (← Instant.reader) }⟩,
   ⟨"date_released", true, (·.dateReleased.isSome), fun _ s => do
      return { s with dateReleased := some (← Instant.reader) }⟩]

/-- The track of the parts that have been read, if none is missing that has no default. -/
def Parts.toTrack? (p : Parts) : Option Track := do
  return {
    name := ← p.name
    explicit := p.explicit.getD false
    album := ← p.album
    artists := p.artists.getD []
    labels := p.labels.getD []
    dateAdded := ← p.dateAdded
    dateReleased := ← p.dateReleased }

/-- A track that may be nested so many levels deep. -/
def reader (levels : Nat) : Reader Track := do
  let parts ← Json.Reader.record Parts.fields levels ⟨none, none, none, none, none, none, none⟩
  match parts.toTrack? with
  | some t => return t
  | none => malformed

/-- The track of a JSON text. -/
def ofJson (text : String) : Except Json.Fault Track :=
  Json.read reader text

/-- The tracks of a JSON text that is an array of them. -/
def listOfJson (text : String) : Except Json.Fault (List Track) :=
  Json.read (fun levels => Json.Reader.list levels reader) text

end Track

end TrackCriteria
