import TrackCriteria.Proofs.Search.Blank

/-!
# Summaries of searches

A search stops at a limit of matches and names a few of them. So its summary is that of the first
matches (`SearchSummary.ofFilter_eq`), and two lists of tracks, one after the other, have a summary
that follows from those of both (`SearchSummary.ofFilter_append`). Once the limit is reached, no
further track makes a difference (`SearchSummary.ofFilter_append_of_le`).
-/

namespace TrackCriteria

open Calendar (ZonedTime)

namespace SearchSummary

variable (filter : Option Predicate) (a b tracks : List Track)

/-- The summary of tracks behind others, from the summaries of both. -/
def append (s s' : SearchSummary) : SearchSummary :=
  ⟨min matchLimit (s.matchCount + s'.matchCount),
    (s.matchExamples ++ s'.matchExamples).take exampleCount⟩

/-- Fewer matches are named than counted, so the limit does not show in the names. -/
theorem ofFilter_eq : ofFilter filter tracks =
    ⟨min matchLimit (tracks.filter (passes filter)).length,
      ((tracks.filter (passes filter)).take exampleCount).map (·.name)⟩ := by
  have hle : exampleCount ≤ matchLimit := by decide
  unfold ofFilter
  dsimp only
  rw [List.length_take, List.take_take, Nat.min_eq_left hle]

/-- The first ones of two lists are among the first ones of each. -/
theorem take_append_take {α : Type} (n : Nat) (l l' : List α) :
    (l.take n ++ l'.take n).take n = (l ++ l').take n := by
  rw [List.take_append, List.take_append, List.take_take, List.take_take, List.length_take,
    Nat.min_self]
  congr 2
  omega

theorem ofFilter_append :
    ofFilter filter (a ++ b) = (ofFilter filter a).append (ofFilter filter b) := by
  simp only [ofFilter_eq, append, List.filter_append, List.length_append, List.map_take,
    List.map_append, take_append_take]
  congr 1
  omega

variable {filter a}

/-- Tracks behind the last match that is counted are not looked at. -/
theorem ofFilter_append_of_le (h : matchLimit ≤ (a.filter (passes filter)).length) :
    ofFilter filter (a ++ b) = ofFilter filter a := by
  unfold ofFilter
  rw [List.filter_append, List.take_append_of_le_length h]

end SearchSummary

/-! ### What a source asks for -/

/-- Whether a source asks for the tracks that `keep` holds of: the matches of the predicate that it
spells, or all tracks if it is blank. -/
def Asks (source : String) (now : ZonedTime) (keep : Track → Bool) : Prop :=
  (Text.trim source = "" ∧ keep = fun _ => true) ∨
    ∃ p, Predicate.ofSource source now = .ok p ∧ keep = p.matches

variable {source : String} {now : ZonedTime} {keep : Track → Bool}

/-- What a source asks for are the tracks that pass its filter. -/
theorem Asks.exists_filter (h : Asks source now keep) :
    ∃ filter, Predicate.filterOfSource source now = .ok filter ∧ passes filter = keep := by
  -- A blank source asks for all tracks, and has no filter.
  rcases h with ⟨hblank, rfl⟩ | ⟨p, hp, rfl⟩
  · have hparse : Criteria.parse source = .error .empty := by
      rwa [Criteria.parse_eq_error_empty_iff, Token.scan_eq_nil_iff, ← Text.trim_eq_empty_iff]
    exact ⟨none, Predicate.filterOfSource_eq_none_iff.mpr hparse, rfl⟩
  · unfold Predicate.ofSource at hp
    cases hparse : Criteria.parse source with
    | error err =>
      rw [hparse] at hp
      cases hp
    | ok e =>
      rw [hparse] at hp
      cases hp
      exact ⟨some (e.resolve now), Predicate.filterOfSource_of_parse_ok hparse, rfl⟩

/-- **A search is a capped scan.** It counts the tracks that its source asks for up to 500 and names
the first 5 of them. The summary of tracks behind others follows from the summaries of both, and no
track behind the 500th match changes it. -/
theorem search_of_asks (h : Asks source now keep) (a b : List Track) :
    (∀ tracks, search source now tracks =
      .ok ⟨min 500 (tracks.filter keep).length, ((tracks.filter keep).take 5).map (·.name)⟩) ∧
    (∃ s s', search source now a = .ok s ∧ search source now b = .ok s' ∧
      search source now (a ++ b) = .ok ⟨min 500 (s.matchCount + s'.matchCount),
        (s.matchExamples ++ s'.matchExamples).take 5⟩) ∧
    (500 ≤ (a.filter keep).length → search source now (a ++ b) = search source now a) := by
  obtain ⟨filter, hfilter, rfl⟩ := h.exists_filter
  have hsearch : ∀ tracks,
      search source now tracks = .ok (SearchSummary.ofFilter filter tracks) := by
    intro tracks
    rw [search_eq_map, hfilter]
    rfl
  refine ⟨fun tracks => ?_, ⟨_, _, hsearch a, hsearch b, ?_⟩, fun hle => ?_⟩
  · rw [hsearch, SearchSummary.ofFilter_eq]
    rfl
  · rw [hsearch, SearchSummary.ofFilter_append]
    rfl
  · rw [hsearch, hsearch, SearchSummary.ofFilter_append_of_le b hle]

/-- Behind 500 tracks that are clean, another one is neither counted nor named. -/
theorem search_of_asks_clean : ∃ (now : ZonedTime) (p : Predicate) (track other : Track),
    Predicate.ofSource "clean" now = .ok p ∧ Asks "clean" now p.matches ∧
      p.matches other = true ∧ 500 ≤ ((List.replicate 500 track).filter p.matches).length ∧
      search "clean" now (List.replicate 500 track ++ [other]) =
        .ok ⟨500, ["Calm", "Calm", "Calm", "Calm", "Calm"]⟩ := by
  -- The track is kept behind a name, so that no list of 500 is unfolded.
  obtain ⟨track, htrack⟩ : ∃ track : Track, track = ⟨"Calm", false, "", [], [], .first, .first⟩ :=
    ⟨_, rfl⟩
  let now : ZonedTime := ⟨.first, .fixed ⟨0, by decide, by decide⟩⟩
  let p : Predicate := .atom .clean
  have hp : Predicate.ofSource "clean" now = .ok p := by
    have hparse : Criteria.parse "clean" = .ok (.atom .clean) := by decide +kernel
    rw [Predicate.ofSource, hparse]
    rfl
  have hasks : Asks "clean" now p.matches := .inr ⟨p, hp, rfl⟩
  have hmatches : p.matches track = true := by
    rw [htrack]
    rfl
  have hfilter : (List.replicate 500 track).filter p.matches = List.replicate 500 track :=
    List.filter_replicate_of_pos hmatches
  have hfull : 500 ≤ ((List.replicate 500 track).filter p.matches).length := by
    rw [hfilter, List.length_replicate]
  obtain ⟨hsearch, -, hbehind⟩ :=
    search_of_asks hasks (List.replicate 500 track) [{ track with name := "Quiet" }]
  refine ⟨now, p, track, { track with name := "Quiet" }, hp, hasks, ?_, hfull, ?_⟩
  · rw [htrack]
    rfl
  · rw [hbehind hfull, hsearch, hfilter, List.length_replicate, List.take_replicate,
      List.map_replicate, htrack]
    rfl

end TrackCriteria
