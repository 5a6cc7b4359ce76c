import TrackCriteria.Predicate.Resolve

/-!
# Searching tracks

What is shown while criteria are typed: how many tracks match, counted up to a limit, and the names
of the first few.
-/

namespace TrackCriteria

/-- Matches beyond this many are not counted. -/
def matchLimit : Nat := 500

/-- So many matching tracks are named. -/
def exampleCount : Nat := 5

/-- The result of a search. -/
structure SearchSummary where
  matchCount : Nat
  matchExamples : List String
deriving DecidableEq

/-- Whether a track passes a filter. Without a filter every track does. -/
def passes (filter : Option Predicate) (track : Track) : Bool :=
  match filter with
  | some p => p.matches track
  | none => true

/-- The summary of the tracks that pass a filter. -/
def SearchSummary.ofFilter (filter : Option Predicate) (tracks : List Track) : SearchSummary :=
  let found := (tracks.filter (passes filter)).take matchLimit
  ⟨found.length, (found.take exampleCount).map (·.name)⟩

/-- Searches tracks for the criteria that a source spells at a point in time. -/
def search (source : String) (now : Calendar.ZonedTime) (tracks : List Track) :
    Except SyntaxError SearchSummary := do
  let filter ← Predicate.filterOfSource source now
  return SearchSummary.ofFilter filter tracks

end TrackCriteria
