import TrackCriteria.Criteria.Canonical
import TrackCriteria.Track

/-!
# Suggested criteria

Examples of criteria that are shown while typing: some that fit any library, and one for each label,
album and artist of the user's. Albums and artists come in the order in which tracks of theirs were
added, the latest first. Names that hold a quote cannot be written in criteria and are left out.
-/

namespace TrackCriteria

/-- Criteria that are suggested, and what they mean. -/
structure Suggestion where
  value : String
  description : String
deriving DecidableEq

namespace Suggestion

/-! ### Suggestions for any library -/

/-- One suggestion for each flag. -/
def flags : List Suggestion :=
  [⟨"clean", "Clean"⟩, ⟨"explicit", "Explicit"⟩, ⟨"unlabeled", "Has no labels"⟩]

/-- What may follow a date field, and what it means. -/
def dateExamples : List (String × String) :=
  [("=2020", "in 2020"), ("<=2020", "in or before 2020"), (">2020", "after 2020"),
   ("<4-1-2020", "before April 1, 2020"), (">=4-1-2020", "on or after April 1, 2020"),
   ("=7d", "7 days ago"), ("<3m", "less than 3 months ago"), (">=1y", "more than 1 year ago")]

/-- The suggestions for a date field, with the verb that describes it. -/
def dates (field : DateField) (verb : String) : List Suggestion :=
  dateExamples.map fun (comparison, meaning) =>
    ⟨field.keyword ++ comparison, verb ++ " " ++ meaning⟩

/-! ### Suggestions for a library -/

/-- The items of a list without those that occurred before. -/
def firstOccurrences {α : Type} [DecidableEq α] : List α → List α
  | [] => []
  | a :: as => a :: (firstOccurrences as).filter (· ≠ a)

/-- Whether criteria can hold the text. -/
def isQuotable (text : String) : Bool :=
  !text.toList.contains '"'

/-- One suggestion for each of some names. -/
def named (field : TextField) (describe : String → String) (names : List String) :
    List Suggestion :=
  ((firstOccurrences names).filter isQuotable).map fun name =>
    ⟨(Atom.text field name).canonical, describe name⟩

/-- The tracks, those first that were added last. -/
def mostRecent (tracks : List Track) : List Track :=
  tracks.mergeSort fun a b => b.dateAdded ≤ a.dateAdded

/-- All suggestions for a library with the given labels and tracks. -/
def all (labels : List String) (tracks : List Track) : List Suggestion :=
  let recent := mostRecent tracks
  flags ++ dates .added "Added" ++ dates .released "Released" ++
    named .label (fun name => "Has label " ++ quoteText name) labels ++
    named .album (fun name => "Album is " ++ name) (recent.map (·.album)) ++
    named .artist (fun name => "Artist is " ++ name) (recent.flatMap (·.artists))

end Suggestion

end TrackCriteria
