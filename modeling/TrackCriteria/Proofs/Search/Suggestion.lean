import Mathlib.Data.List.Nodup
import TrackCriteria.Proofs.Criteria.Canonical
import TrackCriteria.Proofs.Search.Blank
import TrackCriteria.Search.Suggestion

/-!
# Suggestions work

A suggestion can be entered as it is. Each one is the text of a single test, so it parses as this
test (`Atom.parse_canonical`), and no two suggestions are equal, since no two ask for the same
(`Suggestion.nodup_asked`). The texts that are suggested are those of the library, and whoever asks
for a text of a track finds that track (`search_of_mem_texts`). Together these are
`Suggestion.all_parse_and_match`.
-/

namespace TrackCriteria

open Calendar (ZonedTime)

/-! ### Searching for one test -/

/-- A test is criteria of its own, so its text is never nested too deep. -/
theorem Atom.parse_canonical {a : Atom} (h : a.IsExpressible) :
    Criteria.parse a.canonical = .ok (.atom a) := by
  have hatom : Criteria.IsExpressible (.atom a) := List.forall_mem_singleton.mpr h
  have hnesting : Criteria.nesting (.atom a) ≤ maxDepth := by
    show 1 ≤ maxDepth
    decide
  exact (Criteria.parse_canonical_eq_ok hatom).mpr hnesting

theorem Atom.canonical_text (field : TextField) (text : String) :
    (Atom.text field text).canonical = field.keyword ++ ":\"" ++ text ++ "\"" := by
  simp only [canonical, quoteText, String.append_assoc]
  rfl

/-- Whoever asks for a text of a track finds a track. -/
theorem search_of_mem_texts {source : String} {field : TextField} {text : String}
    (h : Criteria.parse source = .ok (.atom (.text field text))) (now : ZonedTime)
    {tracks : List Track} {track : Track} (htrack : track ∈ tracks)
    (htext : text ∈ track.texts field) :
    ∃ summary, search source now tracks = .ok summary ∧ 0 < summary.matchCount := by
  let filter : Option Predicate := some (.atom (.text field text))
  have hfilter : Predicate.filterOfSource source now = .ok filter :=
    Predicate.filterOfSource_of_parse_ok h
  -- The track passes, and the limit is not so low that it would not be counted.
  have hpasses : passes filter track = true := List.contains_iff_mem.mpr htext
  have hfound : 0 < (tracks.filter (passes filter)).length :=
    List.length_pos_of_mem (List.mem_filter.mpr ⟨htrack, hpasses⟩)
  have hlimit : 0 < matchLimit := by decide
  refine ⟨SearchSummary.ofFilter filter tracks, ?_, ?_⟩
  · rw [search_eq_map, hfilter]
    rfl
  · unfold SearchSummary.ofFilter
    dsimp only
    rw [List.length_take]
    exact Nat.lt_min.mpr ⟨hlimit, hfound⟩

namespace Suggestion

/-! ### First occurrences -/

section FirstOccurrences

variable {α : Type} [DecidableEq α]

theorem mem_firstOccurrences {a : α} {l : List α} : a ∈ firstOccurrences l ↔ a ∈ l := by
  induction l with
  | nil => rfl
  | cons b l ih =>
    rw [firstOccurrences, List.mem_cons, List.mem_cons, List.mem_filter, ih]
    by_cases hab : a = b <;> simp [hab]

theorem nodup_firstOccurrences (l : List α) : (firstOccurrences l).Nodup := by
  induction l with
  | nil => exact List.nodup_nil
  | cons a l ih =>
    refine List.nodup_cons.mpr ⟨fun h => ?_, ih.filter _⟩
    simpa using (List.mem_filter.mp h).2

end FirstOccurrences

/-! ### What is asked for -/

theorem isQuotable_iff {text : String} : isQuotable text = true ↔ '"' ∉ text.toList := by
  simp [isQuotable]

/-- The suggestions that fit any library. -/
def general : List Suggestion :=
  flags ++ dates .added "Added" ++ dates .released "Released"

/-- The texts of a library in the order in which they are gone through for suggestions. -/
def libraryTexts (labels : List String) (tracks : List Track) : TextField → List String
  | .label => labels
  | field => (mostRecent tracks).flatMap (·.texts field)

/-- The texts that are suggested for a field. -/
def suggestedTexts (labels : List String) (tracks : List Track) (field : TextField) :
    List String :=
  (firstOccurrences (libraryTexts labels tracks field)).filter isQuotable

/-- The fields and texts that are asked for, one after the other. -/
def asked (labels : List String) (tracks : List Track) : List (TextField × String) :=
  [.label, .album, .artist].flatMap fun field =>
    (suggestedTexts labels tracks field).map fun text => (field, text)

variable {labels : List String} {tracks : List Track} {field : TextField} {text : String}

theorem mem_suggestedTexts : text ∈ suggestedTexts labels tracks field ↔
    text ∈ libraryTexts labels tracks field ∧ '"' ∉ text.toList := by
  rw [suggestedTexts, List.mem_filter, mem_firstOccurrences, isQuotable_iff]

theorem nodup_suggestedTexts (labels : List String) (tracks : List Track) (field : TextField) :
    (suggestedTexts labels tracks field).Nodup :=
  (nodup_firstOccurrences _).filter _

theorem mem_flatMap_mostRecent : text ∈ (mostRecent tracks).flatMap (·.texts field) ↔
    ∃ track ∈ tracks, text ∈ track.texts field := by
  simp only [List.mem_flatMap, mostRecent, List.mem_mergeSort]

/-- Only labels are suggested whether a track has them or not. -/
theorem mem_libraryTexts (h : field ≠ .label) : text ∈ libraryTexts labels tracks field ↔
    ∃ track ∈ tracks, text ∈ track.texts field := by
  have htexts : libraryTexts labels tracks field = (mostRecent tracks).flatMap (·.texts field) := by
    cases field with
    | label => exact absurd rfl h
    | _ => rfl
  rw [htexts, mem_flatMap_mostRecent]

theorem mem_asked (h : (field, text) ∈ asked labels tracks) :
    '"' ∉ text.toList ∧ (field = .label ∧ text ∈ labels ∨
      (field = .album ∨ field = .artist) ∧ ∃ track ∈ tracks, text ∈ track.texts field) := by
  obtain ⟨field', hfield, htext⟩ := List.mem_flatMap.mp h
  obtain ⟨text', htext, heq⟩ := List.mem_map.mp htext
  cases heq
  obtain ⟨hlibrary, hquote⟩ := mem_suggestedTexts.mp htext
  refine ⟨hquote, ?_⟩
  cases field with
  | name => simp at hfield
  | label => exact .inl ⟨rfl, hlibrary⟩
  | album => exact .inr ⟨.inl rfl, (mem_libraryTexts (by decide)).mp hlibrary⟩
  | artist => exact .inr ⟨.inr rfl, (mem_libraryTexts (by decide)).mp hlibrary⟩

/-- Nothing is asked for twice. -/
theorem nodup_asked (labels : List String) (tracks : List Track) :
    (asked labels tracks).Nodup := by
  refine List.nodup_flatMap.mpr ⟨fun field _ => ?_, ?_⟩
  · exact (nodup_suggestedTexts labels tracks field).map fun _ _ h => (Prod.mk.inj h).2
  · -- Suggestions for two fields differ in the field.
    have hfields : [TextField.label, .album, .artist].Nodup := by decide
    refine hfields.imp fun hne => ?_
    rintro ⟨field, text⟩ hleft hright
    obtain ⟨_, -, hleft⟩ := List.mem_map.mp hleft
    obtain ⟨_, -, hright⟩ := List.mem_map.mp hright
    exact hne ((Prod.mk.inj hleft).1.trans (Prod.mk.inj hright).1.symm)

/-! ### What is suggested -/

theorem named_libraryTexts (field : TextField) (describe : String → String) :
    named field describe (libraryTexts labels tracks field) =
      (suggestedTexts labels tracks field).map
        fun text => ⟨(Atom.text field text).canonical, describe text⟩ :=
  rfl

/-- All suggestions are the general ones and one for each text of the library. -/
theorem all_eq (labels : List String) (tracks : List Track) :
    all labels tracks = general ++
      named .label (fun name => "Has label " ++ quoteText name)
        (libraryTexts labels tracks .label) ++
      named .album (fun name => "Album is " ++ name) (libraryTexts labels tracks .album) ++
      named .artist (fun name => "Artist is " ++ name) (libraryTexts labels tracks .artist) := by
  have halbums : (mostRecent tracks).map (·.album) =
      (mostRecent tracks).flatMap (·.texts .album) := List.map_eq_flatMap
  rw [all, halbums]
  rfl

theorem map_value_all (labels : List String) (tracks : List Track) :
    (all labels tracks).map (·.value) = general.map (·.value) ++
      (asked labels tracks).map fun (field, text) => (Atom.text field text).canonical := by
  simp only [all_eq, named_libraryTexts, asked, List.map_append, List.map_map, List.flatMap_cons,
    List.flatMap_nil, List.append_nil, List.append_assoc]
  rfl

/-- Whether a test is about a text. -/
def isTextTest : Atom → Bool
  | .text _ _ => true
  | .clean | .explicit | .unlabeled | .date _ _ _ => false

/-- A general suggestion is a test, but none of a text. -/
theorem parse_of_mem_general {s : Suggestion} (h : s ∈ general) :
    ∃ a : Atom, Criteria.parse s.value = .ok (.atom a) ∧ ∀ field text, a ≠ .text field text := by
  have hall : ∀ s ∈ general,
      ∃ a ∈ (Criteria.parse s.value).toOption.toList.flatMap Formula.atoms,
        Criteria.parse s.value = .ok (.atom a) ∧ isTextTest a = false := by
    decide +kernel
  obtain ⟨a, -, hparse, htext⟩ := hall s h
  refine ⟨a, hparse, ?_⟩
  rintro field text rfl
  cases htext

theorem parse_of_mem_asked (h : (field, text) ∈ asked labels tracks) :
    Criteria.parse (Atom.text field text).canonical = .ok (.atom (.text field text)) :=
  Atom.parse_canonical (mem_asked h).1

/-- Two suggestions of one value would parse as one test. -/
theorem nodup_map_value_all (labels : List String) (tracks : List Track) :
    ((all labels tracks).map (·.value)).Nodup := by
  rw [map_value_all]
  refine List.nodup_append'.mpr ⟨by decide +kernel, ?_, ?_⟩
  · -- Equal values of two that are asked for parse as one test, which has one field and one text.
    refine (nodup_asked labels tracks).map_on ?_
    rintro ⟨field, text⟩ hx ⟨field', text'⟩ hy heq
    have hparse := parse_of_mem_asked hx
    dsimp only at heq
    rw [heq, parse_of_mem_asked hy] at hparse
    cases hparse
    rfl
  · -- A general one does not parse as the test of a text.
    intro value hgeneral hasked
    obtain ⟨s, hs, rfl⟩ := List.mem_map.mp hgeneral
    obtain ⟨⟨field, text⟩, hx, heq⟩ := List.mem_map.mp hasked
    obtain ⟨a, ha, hne⟩ := parse_of_mem_general hs
    rw [← heq, parse_of_mem_asked hx] at ha
    cases ha
    exact hne field text rfl

/-- **Every suggestion works.** It parses, as a single test, and no other suggestion has its value.
Behind the general suggestions come those that ask for a label, an album or an artist, and each of
them parses as the test for just this text. The text is one of the library, and where a track has
it, as one does if it is an album or an artist, a search finds a match at any time. -/
theorem all_parse_and_match (labels : List String) (tracks : List Track) :
    (∀ s ∈ all labels tracks, ∃ a : Atom, Criteria.parse s.value = .ok (.atom a)) ∧
    ((all labels tracks).map (·.value)).Nodup ∧
    (all labels tracks).map (·.value) = general.map (·.value) ++
      (asked labels tracks).map (fun (field, text) => field.keyword ++ ":\"" ++ text ++ "\"") ∧
    ∀ field text, (field, text) ∈ asked labels tracks →
      Criteria.parse (field.keyword ++ ":\"" ++ text ++ "\"") = .ok (.atom (.text field text)) ∧
      (field = .label ∧ text ∈ labels ∨ field = .album ∧ (∃ track ∈ tracks, track.album = text) ∨
        field = .artist ∧ ∃ track ∈ tracks, text ∈ track.artists) ∧
      ((field = .label → ∃ track ∈ tracks, text ∈ track.labels) → ∀ now, ∃ summary,
        search (field.keyword ++ ":\"" ++ text ++ "\"") now tracks = .ok summary ∧
          0 < summary.matchCount) := by
  have hvalues := map_value_all labels tracks
  refine ⟨fun s hs => ?_, nodup_map_value_all labels tracks, ?_, fun field text h => ?_⟩
  · have hvalue : s.value ∈ (all labels tracks).map (·.value) := List.mem_map_of_mem hs
    rw [hvalues] at hvalue
    -- It is a general one, or it asks for a text.
    rcases List.mem_append.mp hvalue with hgeneral | hasked
    · obtain ⟨g, hg, heq⟩ := List.mem_map.mp hgeneral
      obtain ⟨a, ha, -⟩ := parse_of_mem_general hg
      exact ⟨a, heq ▸ ha⟩
    · obtain ⟨⟨field, text⟩, hx, heq⟩ := List.mem_map.mp hasked
      exact ⟨.text field text, heq ▸ parse_of_mem_asked hx⟩
  · simpa only [Atom.canonical_text] using hvalues
  · have hparse := parse_of_mem_asked h
    rw [Atom.canonical_text] at hparse
    refine ⟨hparse, ?_, fun hlabel now => ?_⟩
    · rcases (mem_asked h).2 with hlabel | ⟨rfl | rfl, track, htrack, htext⟩
      · exact .inl hlabel
      · exact .inr (.inl ⟨rfl, track, htrack, (List.mem_singleton.mp htext).symm⟩)
      · exact .inr (.inr ⟨rfl, track, htrack, htext⟩)
    · -- A label may be given that no track has. Albums and artists come from the tracks.
      rcases (mem_asked h).2 with ⟨rfl, -⟩ | ⟨-, track, htrack, htext⟩
      · obtain ⟨track, htrack, htext⟩ := hlabel rfl
        exact search_of_mem_texts hparse now htrack htext
      · exact search_of_mem_texts hparse now htrack htext

end Suggestion

end TrackCriteria
