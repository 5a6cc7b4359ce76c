import TrackCriteria.CommandLine
import TrackCriteria.Proofs.Search.Blank
import TrackCriteria.Proofs.Text.Run

/-!
# The prompt and a run for one source

The steps of a report read the source each on its own: for the filter, for the criteria that are
shown and for the matches. They come to the same, so a report that has started is never stopped
(`Session.report_of_parse_ok`, `Session.report_snd`). Then a line that does not ask for the end of
the session does not end it, and the prompt shows for each line what a run shows that reports on this
line alone (`CommandLine.interactive_eq`).
-/

namespace TrackCriteria

namespace Session

variable {source : String} {filter : Option Predicate}

/-! ### Reports -/

/-- What is shown of the tracks that match a filter. -/
def shownMatches (s : Session) (filter : Option Predicate) : String :=
  if s.tracks.isEmpty then "" else summaryReport (SearchSummary.ofFilter filter s.tracks)

/-- The search succeeds with the filter of the source. -/
theorem matchReport_eq_ok {s : Session}
    (h : Predicate.filterOfSource source s.now = .ok filter) :
    s.matchReport source = .ok (s.shownMatches filter) := by
  unfold matchReport shownMatches
  rw [search_eq_map, h]
  split_ifs <;> rfl

theorem report_of_filter {s : Session} (h : Predicate.filterOfSource source s.now = .ok filter) :
    s.report source =
      (s.criteriaReport source filter ++ s.queryReport filter ++ s.shownMatches filter, none) := by
  simp only [report, h, matchReport_eq_ok h]

/-- The report on criteria shows them in their canonical form, with their predicate, its query and
its matches. -/
theorem report_of_parse_ok (s : Session) {c : Criteria} (h : Criteria.parse source = .ok c) :
    s.report source =
      (line ("criteria:  " ++ c.canonical) ++
        line ("predicate: " ++
          if s.json then (c.resolve s.now).toJson.indented else (c.resolve s.now).outline 0) ++
        s.queryReport (some (c.resolve s.now)) ++ s.shownMatches (some (c.resolve s.now)), none) := by
  rw [report_of_filter (Predicate.filterOfSource_of_parse_ok h)]
  simp only [criteriaReport, h]

/-- The report on a source that spells no criteria is about its error, unless the source is blank:
then it is about all tracks. -/
theorem report_of_parse_error (s : Session) {e : SyntaxError}
    (h : Criteria.parse source = .error e) :
    s.report source =
      (if e = .empty then
        line "criteria:  (none, matches every track)" ++ s.queryReport none ++ s.shownMatches none
      else errorReport source e, none) := by
  have hfilter : Predicate.filterOfSource source s.now = if e = .empty then .ok none else .error e :=
    Predicate.filterOfSource_of_parse_error h
  split_ifs with hempty
  · rw [if_pos hempty] at hfilter
    exact report_of_filter hfilter
  · rw [if_neg hempty] at hfilter
    simp only [report, hfilter]

/-- No report is stopped before its end. -/
theorem report_snd (s : Session) (source : String) : (s.report source).2 = none := by
  cases h : Criteria.parse source with
  | ok c => rw [s.report_of_parse_ok h]
  | error e => rw [s.report_of_parse_error h]

/-! ### Answers -/

theorem banner_eq (s : Session) :
    s.banner = "--- Smart labels: criteria compiler ---\nnow: " ++ s.now.text ++
      "\nType criteria, :examples for suggestions, :quit to exit.\n\n" := by
  have hfront : "--- Smart labels: criteria compiler ---\nnow: " =
      "--- Smart labels: criteria compiler ---" ++ "\n" ++ "now: " := by decide
  have hback : "\nType criteria, :examples for suggestions, :quit to exit.\n\n" =
      "\n" ++ "Type criteria, :examples for suggestions, :quit to exit." ++ "\n" ++ "" ++ "\n" := by
    decide
  rw [hfront, hback]
  simp only [banner, line, String.append_assoc]

/-- The values of the suggestions stand in a column of 32 characters. -/
theorem suggestionReport_eq (s : Session) :
    s.suggestionReport = String.join ((Suggestion.all
      ((s.tracks.flatMap (·.labels)).mergeSort fun a b => a ≤ b) s.tracks).map fun g =>
        String.ofList (g.value.toList.rightpad 32 ' ') ++ " " ++ g.description ++ "\n") := by
  have hline : suggestionLine = fun g =>
      String.ofList (g.value.toList.rightpad 32 ' ') ++ " " ++ g.description ++ "\n" := by
    funext g
    rw [suggestionLine, line, times, List.rightpad, String.ofList_append, String.ofList_toList,
      String.length_toList]
  rw [suggestionReport, hline]

/-- What the prompt shows for a line on its own. -/
def shownFor (s : Session) (input : String) : String :=
  if input = ":examples" then s.suggestionReport else (s.report input).1

theorem answer_eq (s : Session) (input : String) :
    s.answer input = (s.shownFor input ++ line "", none) := by
  unfold answer shownFor
  split_ifs
  · rfl
  · have hreport : s.report input = ((s.report input).1, none) := by
      rw [← s.report_snd input]
    rw [hreport]

theorem isQuit_eq_false_iff {l : String} : isQuit l = false ↔ l ≠ ":quit" ∧ l ≠ ":q" := by
  rw [isQuit, Bool.or_eq_false_iff, decide_eq_false_iff_not, decide_eq_false_iff_not]

/-- The lines that are answered: those before the first one that ends the session, trimmed. -/
def answered (lines : List String) : List String :=
  (lines.map Text.trim).takeWhile fun l => l ≠ ":quit" ∧ l ≠ ":q"

theorem answered_cons_of_quit {l : String} (h : isQuit (Text.trim l) = true)
    (lines : List String) : answered (l :: lines) = [] := by
  rw [answered, List.map_cons, List.takeWhile_cons_of_neg]
  intro hanswered
  rw [isQuit_eq_false_iff.mpr (of_decide_eq_true hanswered)] at h
  exact Bool.false_ne_true h

theorem answered_cons {l : String} (h : isQuit (Text.trim l) = false) (lines : List String) :
    answered (l :: lines) = Text.trim l :: answered lines := by
  rw [answered, List.map_cons, List.takeWhile_cons_of_pos, ← answered]
  exact decide_eq_true (isQuit_eq_false_iff.mp h)

/-- A line that does not end the session adds to what is shown for the lines after it. -/
theorem answers_ok_cons (s : Session) (l : String) (inputs : List (Except InputFault String)) :
    s.answers (.ok l :: inputs) =
      if isQuit (Text.trim l) then ("", none)
      else (s.shownFor (Text.trim l) ++ line "" ++ (s.answers inputs).1, (s.answers inputs).2) := by
  rw [answers, answer_eq]

/-- What lines show that do not end the session, and what the lines after them show, is independent
of one another. -/
theorem answers_append (s : Session) {front : List String}
    (hfront : ∀ l ∈ front, isQuit (Text.trim l) = false) (back : List (Except InputFault String)) :
    s.answers (front.map .ok ++ back) =
      ((s.answers (front.map .ok)).1 ++ (s.answers back).1, (s.answers back).2) := by
  induction front with
  | nil => rw [List.map_nil, List.nil_append, answers, String.empty_append]
  | cons l front ih =>
    obtain ⟨hl, hfront⟩ := List.forall_mem_cons.mp hfront
    rw [List.map_cons, List.cons_append, answers_ok_cons, answers_ok_cons, ih hfront, hl,
      if_neg Bool.false_ne_true, if_neg Bool.false_ne_true]
    simp only [String.append_assoc]

/-- The prompt answers every line up to the one that ends the session. -/
theorem answers_map_ok (s : Session) (lines : List String) :
    s.answers (lines.map .ok) =
      (String.join ((answered lines).map fun l => s.shownFor l ++ line ""), none) := by
  induction lines with
  | nil => rfl
  | cons l lines ih =>
    rw [List.map_cons, answers_ok_cons, ih]
    cases h : isQuit (Text.trim l) with
    | true => rw [if_pos rfl, answered_cons_of_quit h, List.map_nil, String.join_nil]
    | false => rw [if_neg Bool.false_ne_true, answered_cons h, List.map_cons, String.join_cons]

end Session

/-! ### Runs -/

namespace CommandLine

open Session (line)

theorem oneShot_eq (s : Session) (source : String) :
    oneShot s source = ⟨0, (s.report source).1⟩ := by
  have hreport : s.report source = ((s.report source).1, none) := by
    rw [← s.report_snd source]
  rw [oneShot, hreport]
  rfl

/-- Options that start the prompt start a run for one source with the same session if they have the
source as well. -/
theorem Options.start_of_criteria {o : Options} {file : String → Option ByteArray}
    {clock : Calendar.ZonedTime} {s : Session} (h : o.start file clock = .prompt s)
    (source : String) :
    { o with criteria := some source }.start file clock = .finished (oneShot s source) := by
  unfold Options.start at h ⊢
  dsimp only at h ⊢
  split at h
  · cases h
  · -- The source is looked at last, when the session is there.
    cases hcriteria : o.criteria with
    | some source' =>
      rw [hcriteria] at h
      cases h
    | none =>
      rw [hcriteria] at h
      cases h
      rfl

/-- **The prompt is a run for one source, line by line.** It shows its banner and then, for each line
up to the first one that asks for the end, what a run shows that reports on this line alone, or the
suggestions for the labels in alphabetical order, and an empty line. Lines are taken without the white
space at their ends. Whatever the lines are, it goes on to that line or to the end of its input and
exits with success, as do all runs for one source, and what lines show does not depend on the lines
around them. The two kinds of run have the same session if their options differ in the source only. -/
theorem interactive_eq (s : Session) (lines : List String) :
    interactive s (lines.map .ok) =
        ⟨0, "--- Smart labels: criteria compiler ---\nnow: " ++ s.now.text ++
          "\nType criteria, :examples for suggestions, :quit to exit.\n\n" ++
          String.join (((lines.map Text.trim).takeWhile fun l => l ≠ ":quit" ∧ l ≠ ":q").map fun l =>
            (if l = ":examples" then
              String.join ((Suggestion.all
                ((s.tracks.flatMap (·.labels)).mergeSort fun a b => a ≤ b) s.tracks).map fun g =>
                  String.ofList (g.value.toList.rightpad 32 ' ') ++ " " ++ g.description ++ "\n")
            else (oneShot s l).stdout) ++ "\n")⟩ ∧
      (∀ l, ∃ front back, l = front ++ Text.trim l ++ back ∧
        (∀ c ∈ front.toList ++ back.toList, Text.isWhiteSpace c = true) ∧
        (∀ c ∈ (Text.trim l).toList.head?, Text.isWhiteSpace c = false) ∧
        ∀ c ∈ (Text.trim l).toList.getLast?, Text.isWhiteSpace c = false) ∧
      (∀ source, (oneShot s source).exit = 0) ∧
      (∀ front back, lines = front ++ back →
        (∀ l ∈ front, Text.trim l ≠ ":quit" ∧ Text.trim l ≠ ":q") →
        (s.answers (lines.map .ok)).1 =
          (s.answers (front.map .ok)).1 ++ (s.answers (back.map .ok)).1) ∧
      ∀ (o : Options) file clock, o.start file clock = .prompt s →
        ∀ source, { o with criteria := some source }.start file clock =
          .finished (oneShot s source) := by
  refine ⟨?_, Text.exists_trim, fun source => ?_, ?_,
    fun o file clock h => Options.start_of_criteria h⟩
  · rw [interactive, Session.prompt, Session.answers_map_ok, Session.banner_eq]
    simp only [Session.shownFor, Session.suggestionReport_eq, oneShot_eq]
    rfl
  · rw [oneShot_eq]
  · rintro front back rfl hfront
    rw [List.map_append, s.answers_append fun l hl => Session.isQuit_eq_false_iff.mpr (hfront l hl)]

/-- A session with one track, at lines of each kind: criteria with white space around them, a source
with an error, an empty line, the request for suggestions, and the end with a line behind it. What
the lines behind the error show is what they show on their own. -/
theorem interactive_eq_transcript :
    ∃ (s : Session) (lines : List String),
      s.tracks.map (·.name) = ["Reise"] ∧ s.tracks.map (·.labels) = [["Focus"]] ∧
      lines = [" clean ", "(", "", ":examples", " :q", "explicit"] ∧
      (interactive s (lines.map .ok)).exit = 0 ∧
      (s.answers (lines.map .ok)).1 = (s.answers ([" clean ", "("].map .ok)).1 ++
        (s.answers (["", ":examples", " :q", "explicit"].map .ok)).1 ∧
      (interactive s (lines.map .ok)).stdout =
        "--- Smart labels: criteria compiler ---\nnow: 2020-01-02T03:04:05+00:00\n" ++
          "Type criteria, :examples for suggestions, :quit to exit.\n\n" ++ String.join ([
        ["criteria:  clean",
         "predicate: Clean",
         "sql:       SELECT \"tracks\".* FROM \"tracks\"" ++
           " WHERE \"tracks\".\"user_id\" = 1 AND \"tracks\".\"explicit\" = FALSE LIMIT 500",
         "matches:   1",
         "  • Reise"],
        ["✗ Invalid smart criteria: expected an expression, but reached end of input"],
        ["criteria:  (none, matches every track)",
         "sql:       SELECT \"tracks\".* FROM \"tracks\"" ++
           " WHERE \"tracks\".\"user_id\" = 1 LIMIT 500",
         "matches:   1",
         "  • Reise"],
        ["clean                            Clean",
         "explicit                         Explicit",
         "unlabeled                        Has no labels",
         "added=2020                       Added in 2020",
         "added<=2020                      Added in or before 2020",
         "added>2020                       Added after 2020",
         "added<4-1-2020                   Added before April 1, 2020",
         "added>=4-1-2020                  Added on or after April 1, 2020",
         "added=7d                         Added 7 days ago",
         "added<3m                         Added less than 3 months ago",
         "added>=1y                        Added more than 1 year ago",
         "released=2020                    Released in 2020",
         "released<=2020                   Released in or before 2020",
         "released>2020                    Released after 2020",
         "released<4-1-2020                Released before April 1, 2020",
         "released>=4-1-2020               Released on or after April 1, 2020",
         "released=7d                      Released 7 days ago",
         "released<3m                      Released less than 3 months ago",
         "released>=1y                     Released more than 1 year ago",
         "label:\"Focus\"                    Has label \"Focus\"",
         "album:\"Wege\"                     Album is Wege",
         "artist:\"Ada\"                     Artist is Ada"]].map
          fun shown => String.join (shown.map (· ++ "\n")) ++ "\n") := by
  obtain ⟨t, ht⟩ : ∃ t : Calendar.Instant, t = ⟨1577934245, 0, by decide, by decide, by decide⟩ :=
    ⟨_, rfl⟩
  refine ⟨⟨.standard, [⟨"Reise", false, "Wege", ["Ada"], ["Focus"], t, t⟩], ⟨t, .fixed .utc⟩, 1,
    false⟩, _, rfl, rfl, rfl, ?_, ?_, ?_⟩
  · rw [(interactive_eq _ _).1]
  · have hfront : ∀ l ∈ [" clean ", "("], Text.trim l ≠ ":quit" ∧ Text.trim l ≠ ":q" := by
      decide +kernel
    exact (interactive_eq _ _).2.2.2.1 _ _ rfl hfront
  · -- Sorting is no computation that can be run, but there is just one label and one track.
    rw [(interactive_eq _ _).1, Suggestion.all, Suggestion.mostRecent, List.flatMap_singleton,
      List.mergeSort_singleton, List.mergeSort_singleton, ht]
    have hanswered : ([" clean ", "(", "", ":examples", " :q", "explicit"].map Text.trim).takeWhile
        (fun l => l ≠ ":quit" ∧ l ≠ ":q") = ["clean", "(", "", ":examples"] := by decide +kernel
    refine congrArg₂ (· ++ ·) (by decide +kernel) (congrArg String.join ?_)
    rw [hanswered]
    refine congrArg₂ List.cons ?_ (congrArg₂ List.cons ?_ (congrArg₂ List.cons ?_
      (congrArg (fun shown => [String.join shown ++ "\n"]) ?_))) <;> decide +kernel

end CommandLine

end TrackCriteria
