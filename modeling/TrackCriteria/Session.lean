import TrackCriteria.Criteria.Canonical
import TrackCriteria.Predicate.Json
import TrackCriteria.Predicate.Outline
import TrackCriteria.Search
import TrackCriteria.Search.Suggestion
import TrackCriteria.Session.Input
import TrackCriteria.Sql.Selection
import TrackCriteria.Sql.Text

/-!
# Sessions

A session holds what criteria are compiled against: the schema, the tracks, the evaluation time
and the user. Its report on a source shows what was understood, the predicate, the query and the
matches, or else the error and the place it is about. The prompt reports on one line after the
other. The steps of a report read the source each on its own, so a report can also be stopped.
-/

namespace TrackCriteria

/-- What criteria are compiled against. -/
structure Session where
  schema : Schema
  tracks : List Track
  now : Calendar.ZonedTime
  userId : Int
  /-- Whether predicates are shown as JSON. -/
  json : Bool

namespace Session

/-! ### Errors -/

/-- The number of characters that start before a byte of the text. -/
def charsBefore (cs : List Char) (byte : Nat) : Nat :=
  match cs with
  | [] => 0
  | c :: cs => if byte = 0 then 0 else charsBefore cs (byte - c.utf8Size) + 1

/-- A line of the output. -/
def line (s : String) : String :=
  s ++ "\n"

/-- A character a number of times. -/
def times (n : Nat) (c : Char) : String :=
  String.ofList (List.replicate n c)

/-- The source with a mark under the place that an error is about. -/
def marked (source : String) (span : Span) : String :=
  let offset := charsBefore source.toList span.start
  let width := max 1 (charsBefore source.toList span.stop - offset)
  line ("  " ++ source) ++ line ("  " ++ times offset ' ' ++ times width '^')

/-- The report on a source that is rejected. -/
def errorReport (source : String) (e : SyntaxError) : String :=
  line ("✗ Invalid smart criteria: " ++ e.message) ++ (e.span?.map (marked source)).getD ""

/-! ### Reports -/

/-- What is said about a filter that was understood: the criteria as the source spells them, and the
predicate. -/
def criteriaReport (s : Session) (source : String) : Option Predicate → String
  | none => line "criteria:  (none, matches every track)"
  | some p =>
    (match Criteria.parse source with
      | .ok c => line ("criteria:  " ++ c.canonical)
      | .error _ => "") ++
      line ("predicate: " ++ if s.json then p.toJson.indented else p.outline 0)

/-- The query of a filter. -/
def queryReport (s : Session) (filter : Option Predicate) : String :=
  line ("sql:       " ++ (s.schema.selectTracks filter s.userId (some matchLimit)).inlined)

/-- The matches of a search. -/
def summaryReport (summary : SearchSummary) : String :=
  line ("matches:   " ++ summary.matchCount.repr) ++
    String.join (summary.matchExamples.map fun name => line ("  • " ++ name))

/-- The tracks that match a source, if the session has any tracks. The search reads the source on its
own. -/
def matchReport (s : Session) (source : String) : Except SyntaxError String :=
  if s.tracks.isEmpty then return ""
  else return summaryReport (← search source s.now s.tracks)

/-- The report on a source, and the error that stops it before its end, if one does. A source that is
rejected is reported on to the end. -/
def report (s : Session) (source : String) : String × Option SyntaxError :=
  match Predicate.filterOfSource source s.now with
  | .error e => (errorReport source e, none)
  | .ok filter =>
    let shown := s.criteriaReport source filter ++ s.queryReport filter
    match s.matchReport source with
    | .error e => (shown, some e)
    | .ok matching => (shown ++ matching, none)

/-! ### Suggestions -/

/-- A suggestion in two columns. -/
def suggestionLine (s : Suggestion) : String :=
  line (s.value ++ times (32 - s.value.length) ' ' ++ " " ++ s.description)

/-- The suggestions for the tracks of the session, with their labels in alphabetical order. -/
def suggestionReport (s : Session) : String :=
  let labels := (s.tracks.flatMap (·.labels)).mergeSort fun a b => a ≤ b
  String.join ((Suggestion.all labels s.tracks).map suggestionLine)

/-! ### The prompt -/

/-- What the prompt shows before the first line. -/
def banner (s : Session) : String :=
  line "--- Smart labels: criteria compiler ---" ++ line ("now: " ++ s.now.text) ++
    line "Type criteria, :examples for suggestions, :quit to exit." ++ line ""

/-- Why a session ends before its input does. -/
inductive Fault where
  /-- A line cannot be read. -/
  | input (fault : InputFault)
  /-- The report on a line is stopped. -/
  | report (e : SyntaxError)

/-- What the prompt shows for a line, and the error that stops it before its end, if one does. -/
def answer (s : Session) (input : String) : String × Option SyntaxError :=
  let (shown, error) := if input = ":examples" then (s.suggestionReport, none) else s.report input
  match error with
  | some e => (shown, some e)
  | none => (shown ++ line "", none)

/-- Whether a line ends the session. -/
def isQuit (input : String) : Bool :=
  input = ":quit" || input = ":q"

/-- What the prompt shows for some lines, and why the session ends before the last of them, if it
does. -/
def answers (s : Session) : List (Except InputFault String) → String × Option Fault
  | [] => ("", none)
  | .error fault :: _ => ("", some (.input fault))
  | .ok input :: inputs =>
    let input := Text.trim input
    if isQuit input then ("", none)
    else
      match s.answer input with
      | (shown, some e) => (shown, some (.report e))
      | (shown, none) =>
        let (more, fault) := s.answers inputs
        (shown ++ more, fault)

/-- The whole output of the prompt, and why the session ends before its input does, if it does. -/
def prompt (s : Session) (inputs : List (Except InputFault String)) : String × Option Fault :=
  let (shown, fault) := s.answers inputs
  (s.banner ++ shown, fault)

end Session

end TrackCriteria
