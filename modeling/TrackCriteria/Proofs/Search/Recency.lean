import TrackCriteria.Proofs.Calendar.Instant
import TrackCriteria.Proofs.Search.Suggestion

/-!
# The order of suggestions

Albums and artists are suggested in the order in which tracks of theirs were added, the latest first
(`Suggestion.all_sorted`). What a name is sorted by is said of the tracks as they stand in their list:
when the last track with the name was added, which of these tracks comes first in the list, and where
the name stands in this track. Suggestions are found in another way, by sorting the tracks and
dropping names that occurred before. Each place where a name stands is a `Mention`. The sorted
tracks have their mentions in order (`pairwise_mentions`), and the first mention of a name is the one
that the name is sorted by (`firstMention_mem`, `not_before_firstMention`).
-/

namespace TrackCriteria

open Calendar (Instant)

/-! ### First occurrences -/

namespace Suggestion

section FirstOccurrences

variable {α κ : Type} [DecidableEq α]

theorem pairwise_firstOccurrences (l : List α) :
    (firstOccurrences l).Pairwise fun a b => l.idxOf a < l.idxOf b := by
  induction l with
  | nil => exact .nil
  | cons a l ih =>
    have hne : ∀ b ∈ (firstOccurrences l).filter (· ≠ a), b ≠ a := by
      intro b hb
      simpa using (List.mem_filter.mp hb).2
    -- Every other member stands one place further back than in the rest.
    have hidx : ∀ b, b ≠ a → (a :: l).idxOf b = l.idxOf b + 1 :=
      fun b hb => List.idxOf_cons_ne l hb.symm
    refine List.pairwise_cons.mpr ⟨fun b hb => ?_, (ih.filter _).imp_of_mem fun hb hc h => ?_⟩
    · rw [List.idxOf_cons_self, hidx b (hne b hb)]
      exact Nat.succ_pos _
    · rw [hidx _ (hne _ hb), hidx _ (hne _ hc)]
      exact Nat.succ_lt_succ h

variable {r : κ → κ → Prop} {l : List (α × κ)} {key : α → κ}

/-- If the keys are in order, and no key of an item comes before the one that is chosen for it, then
this one stands where the item occurs first. -/
theorem getElem_idxOf_eq (hl : l.Pairwise fun x y => r x.2 y.2)
    (hkey : ∀ x ∈ l, (x.1, key x.1) ∈ l ∧ ¬r x.2 (key x.1)) {a : α}
    (h : (l.map Prod.fst).idxOf a < l.length) : l[(l.map Prod.fst).idxOf a] = (a, key a) := by
  have hfst : l[(l.map Prod.fst).idxOf a].1 = a := by
    have hlt : (l.map Prod.fst).idxOf a < (l.map Prod.fst).length := by rwa [List.length_map]
    have hget := List.getElem_idxOf hlt
    rwa [List.getElem_map] at hget
  obtain ⟨hmem, hleast⟩ := hkey _ (List.getElem_mem h)
  rw [hfst] at hmem hleast
  obtain ⟨m, hm, hget⟩ := List.mem_iff_getElem.mp hmem
  -- The chosen key stands somewhere: not further back, as it would come before the first one, and
  -- not in front of the first one, as the item occurs there.
  rcases Nat.lt_trichotomy ((l.map Prod.fst).idxOf a) m with hlt | heq | hgt
  · have hr := List.pairwise_iff_getElem.mp hl _ _ h hm hlt
    rw [hget] at hr
    exact absurd hr hleast
  · subst heq
    exact hget
  · have hne := List.not_of_lt_findIdx hgt
    rw [List.getElem_map, hget] at hne
    simp at hne

/-- Items come in the order of the keys that are chosen for them. -/
theorem pairwise_firstOccurrences_map (hl : l.Pairwise fun x y => r x.2 y.2)
    (hkey : ∀ x ∈ l, (x.1, key x.1) ∈ l ∧ ¬r x.2 (key x.1)) :
    (firstOccurrences (l.map Prod.fst)).Pairwise fun a b => r (key a) (key b) := by
  refine (pairwise_firstOccurrences _).imp_of_mem fun {a b} _ hb hlt => ?_
  have hj : (l.map Prod.fst).idxOf b < l.length := by
    have hlength := List.idxOf_lt_length_of_mem (mem_firstOccurrences.mp hb)
    rwa [List.length_map] at hlength
  have hr := List.pairwise_iff_getElem.mp hl _ _ (Nat.lt_trans hlt hj) hj hlt
  rwa [getElem_idxOf_eq hl hkey, getElem_idxOf_eq hl hkey] at hr

end FirstOccurrences

end Suggestion

/-! ### What names are sorted by -/

section Recency

variable (tracks : List Track) (field : TextField) (text : String)

/-- When the last track with a text was added. -/
def latestAdded? : Option Instant :=
  ((tracks.filter fun track => text ∈ track.texts field).map (·.dateAdded)).max?

/-- The place of the first track with a text among those that were added last. -/
def latestTrack : Nat :=
  tracks.findIdx fun track =>
    text ∈ track.texts field ∧ latestAdded? tracks field text = some track.dateAdded

/-- The place of a text in the first track with it among those that were added last. -/
def latestPlace : Nat :=
  match tracks[latestTrack tracks field text]? with
  | some track => (track.texts field).idxOf text
  | none => 0

variable {text}

/-- Whether a text is more recent than another one: a track with it was added later. Of two texts
whose last tracks were added at the same time, that of the earlier track in the list is taken for
the more recent one, and of two texts of one track the earlier one. -/
def IsMoreRecent (text text' : String) : Prop :=
  ∃ added added', latestAdded? tracks field text = some added ∧
    latestAdded? tracks field text' = some added' ∧
    (added' < added ∨ added' = added ∧
      (latestTrack tracks field text < latestTrack tracks field text' ∨
        latestTrack tracks field text = latestTrack tracks field text' ∧
          latestPlace tracks field text < latestPlace tracks field text'))

variable {tracks field}

theorem latestAdded?_eq_some {added : Instant} :
    latestAdded? tracks field text = some added ↔
      (∃ track ∈ tracks, text ∈ track.texts field ∧ track.dateAdded = added) ∧
        ∀ track ∈ tracks, text ∈ track.texts field → track.dateAdded ≤ added := by
  rw [latestAdded?, List.max?_eq_some_iff, List.forall_mem_map]
  simp only [List.mem_map, List.mem_filter, decide_eq_true_eq, and_assoc, and_imp]

/-- The last track with a text has it at its place. -/
theorem exists_latest (h : ∃ track ∈ tracks, text ∈ track.texts field) :
    ∃ added track, latestAdded? tracks field text = some added ∧
      tracks[latestTrack tracks field text]? = some track ∧ track.dateAdded = added ∧
      latestPlace tracks field text = (track.texts field).idxOf text ∧
      text ∈ track.texts field := by
  obtain ⟨track, htrack, htext⟩ := h
  obtain ⟨added, hadded⟩ : ∃ added, latestAdded? tracks field text = some added := by
    refine Option.isSome_iff_exists.mp (List.isSome_max?_of_mem (a := track.dateAdded) ?_)
    exact List.mem_map_of_mem (List.mem_filter.mpr ⟨htrack, by simpa using htext⟩)
  obtain ⟨⟨last, hlast, hhas, heq⟩, -⟩ := latestAdded?_eq_some.mp hadded
  -- The place of the track is found, since some track was added at that time and has the text.
  have hlt : latestTrack tracks field text < tracks.length :=
    List.findIdx_lt_length_of_exists ⟨last, hlast, by simp [hhas, hadded, heq]⟩
  have hfound := List.findIdx_getElem (w := hlt)
  simp only [decide_eq_true_eq] at hfound
  have hget : tracks[latestTrack tracks field text]? = some tracks[latestTrack tracks field text] :=
    List.getElem?_eq_getElem hlt
  refine ⟨added, _, hadded, hget, ?_, ?_, hfound.1⟩
  · exact Option.some.inj (hfound.2.symm.trans hadded)
  · simp only [latestPlace, hget]

end Recency

/-! ### Mentions -/

/-- A place where a text stands in a list of tracks. -/
structure Mention where
  /-- When the track was added. -/
  added : Instant
  /-- The place of the track in the list. -/
  track : Nat
  /-- The place of the text in the track. -/
  place : Nat

/-- The order of mentions: tracks added later come first, then tracks that stand earlier in the list,
then texts that stand earlier in the track. -/
def Mention.Before (m m' : Mention) : Prop :=
  m'.added < m.added ∨ m'.added = m.added ∧
    (m.track < m'.track ∨ m.track = m'.track ∧ m.place < m'.place)

/-- The tracks with their places, those first that were added last. -/
def recentTracks (tracks : List Track) : List (Track × Nat) :=
  tracks.zipIdx.mergeSort (List.zipIdxLE fun a b => b.dateAdded ≤ a.dateAdded)

/-- The texts of a field with their mentions. -/
def mentions (tracks : List Track) (field : TextField) : List (String × Mention) :=
  (recentTracks tracks).flatMap fun (track, i) =>
    (track.texts field).zipIdx.map fun (text, j) => (text, ⟨track.dateAdded, i, j⟩)

variable {tracks : List Track} {field : TextField} {text : String} {m : Mention}

theorem map_fst_mentions (tracks : List Track) (field : TextField) :
    (mentions tracks field).map Prod.fst =
      (Suggestion.mostRecent tracks).flatMap (·.texts field) := by
  have hrecent : (recentTracks tracks).map Prod.fst = Suggestion.mostRecent tracks :=
    List.mergeSort_zipIdx
  rw [← hrecent, mentions, List.map_flatMap, List.flatMap_map]
  refine List.flatMap_congr fun x _ => ?_
  rw [List.map_map]
  exact List.zipIdx_map_fst 0 _

theorem mem_mentions : (text, m) ∈ mentions tracks field ↔
    ∃ track, tracks[m.track]? = some track ∧ track.dateAdded = m.added ∧
      (track.texts field)[m.place]? = some text := by
  obtain ⟨added, i, j⟩ := m
  simp only [mentions, recentTracks, List.mem_flatMap, List.mem_mergeSort, List.mem_map,
    Prod.exists, List.mem_zipIdx_iff_getElem?, Prod.mk.injEq, Mention.mk.injEq]
  constructor
  · rintro ⟨track, _, htrack, _, _, htext, rfl, rfl, rfl, rfl⟩
    exact ⟨track, htrack, rfl, htext⟩
  · rintro ⟨track, htrack, rfl, htext⟩
    exact ⟨track, i, htrack, text, j, htext, rfl, rfl, rfl, rfl⟩

/-- Places in a list grow along it. -/
theorem pairwise_zipIdx {α : Type} (l : List α) : l.zipIdx.Pairwise fun x y => x.2 < y.2 := by
  rw [← List.pairwise_map (f := Prod.snd), List.zipIdx_map_snd]
  exact List.pairwise_lt_range'

theorem pairwise_recentTracks (tracks : List Track) :
    (recentTracks tracks).Pairwise fun x y => y.1.dateAdded < x.1.dateAdded ∨
      y.1.dateAdded = x.1.dateAdded ∧ x.2 < y.2 := by
  have htrans : ∀ a b c : Track, decide (b.dateAdded ≤ a.dateAdded) = true →
      decide (c.dateAdded ≤ b.dateAdded) = true → decide (c.dateAdded ≤ a.dateAdded) = true := by
    simp only [decide_eq_true_eq]
    exact fun a b c hba hcb => hcb.trans hba
  have htotal : ∀ a b : Track,
      (decide (b.dateAdded ≤ a.dateAdded) || decide (a.dateAdded ≤ b.dateAdded)) = true := by
    simp only [Bool.or_eq_true, decide_eq_true_eq]
    exact fun a b => le_total b.dateAdded a.dateAdded
  -- A stable sort is a sort of the tracks with their places, where the place decides between equal
  -- dates.
  have hsorted : (recentTracks tracks).Pairwise fun x y => List.zipIdxLE _ x y = true :=
    List.pairwise_mergeSort (List.zipIdxLE_trans htrans) (List.zipIdxLE_total htotal) _
  -- No two tracks have one place, so the order is strict.
  have hplaces : (recentTracks tracks).Pairwise fun x y => x.2 ≠ y.2 :=
    (List.mergeSort_perm tracks.zipIdx _).symm.pairwise
      ((pairwise_zipIdx tracks).imp Nat.ne_of_lt) Ne.symm
  refine (hsorted.and hplaces).imp fun {x y} ⟨hle, hne⟩ => ?_
  simp only [List.zipIdxLE, decide_eq_true_eq] at hle
  split_ifs at hle with hyx hxy
  · exact .inr ⟨le_antisymm hyx hxy, Nat.lt_of_le_of_ne (of_decide_eq_true hle) hne⟩
  · exact .inl (lt_of_not_ge hxy)

/-- Mentions come in their order. -/
theorem pairwise_mentions (tracks : List Track) (field : TextField) :
    (mentions tracks field).Pairwise fun x y => x.2.Before y.2 := by
  refine List.pairwise_flatMap.mpr ⟨fun x _ => ?_, ?_⟩
  · refine List.pairwise_map.mpr ((pairwise_zipIdx _).imp fun hlt => ?_)
    exact .inr ⟨rfl, .inr ⟨rfl, hlt⟩⟩
  · refine (pairwise_recentTracks tracks).imp fun {x y} h => ?_
    intro _ hx _ hy
    obtain ⟨_, -, rfl⟩ := List.mem_map.mp hx
    obtain ⟨_, -, rfl⟩ := List.mem_map.mp hy
    exact h.imp_right (And.imp_right .inl)

/-- The mention that a text is sorted by. -/
def firstMention (tracks : List Track) (field : TextField) (text : String) : Mention :=
  ⟨(latestAdded? tracks field text).getD .first, latestTrack tracks field text,
    latestPlace tracks field text⟩

theorem firstMention_mem (h : ∃ track ∈ tracks, text ∈ track.texts field) :
    (text, firstMention tracks field text) ∈ mentions tracks field := by
  obtain ⟨added, track, hadded, htrack, hdate, hplace, htext⟩ := exists_latest h
  refine mem_mentions.mpr ⟨track, htrack, ?_, ?_⟩
  · rw [firstMention, hadded, hdate]
    rfl
  · show (track.texts field)[latestPlace tracks field text]? = some text
    have hlt := List.idxOf_lt_length_of_mem htext
    rw [hplace, List.getElem?_eq_getElem hlt, List.getElem_idxOf]

/-- No mention of a text comes before the one that the text is sorted by. -/
theorem not_before_firstMention (h : (text, m) ∈ mentions tracks field) :
    ¬m.Before (firstMention tracks field text) := by
  obtain ⟨track, htrack, hdate, htext⟩ := mem_mentions.mp h
  have hmem : track ∈ tracks := List.mem_of_getElem? htrack
  have hhas : text ∈ track.texts field := List.mem_of_getElem? htext
  obtain ⟨added, last, hadded, hlast, -, hplace, -⟩ := exists_latest ⟨track, hmem, hhas⟩
  have hle : m.added ≤ added := hdate ▸ (latestAdded?_eq_some.mp hadded).2 track hmem hhas
  intro hbefore
  simp only [Mention.Before, firstMention, hadded, Option.getD_some] at hbefore
  rcases hbefore with hlt | ⟨heq, hlt | ⟨hsame, hlt⟩⟩
  · exact not_lt_of_ge hle hlt
  · -- An earlier track with the text would have been the first one that was added last.
    obtain ⟨hi, hget⟩ := List.getElem?_eq_some_iff.mp htrack
    have hnot := List.not_of_lt_findIdx hlt
    rw [hget] at hnot
    simp [hhas, hadded, hdate, ← heq] at hnot
  · -- So would an earlier place in this track have been the first one of the text.
    rw [← hsame, htrack] at hlast
    cases hlast
    rw [hplace] at hlt
    obtain ⟨hj, hget⟩ := List.getElem?_eq_some_iff.mp htext
    have hnot := List.not_of_lt_findIdx hlt
    rw [hget] at hnot
    simp at hnot

namespace Suggestion

/-- The texts of the most recent tracks come in the order in which these tracks were added. -/
theorem pairwise_isMoreRecent (tracks : List Track) (field : TextField) :
    (firstOccurrences ((mostRecent tracks).flatMap (·.texts field))).Pairwise
      (IsMoreRecent tracks field) := by
  -- The first mention of a text is the key that is chosen for all its mentions.
  have hmention : ∀ x ∈ mentions tracks field,
      (x.1, firstMention tracks field x.1) ∈ mentions tracks field ∧
        ¬x.2.Before (firstMention tracks field x.1) := by
    rintro ⟨text, m⟩ hx
    obtain ⟨track, htrack, -, htext⟩ := mem_mentions.mp hx
    exact ⟨firstMention_mem ⟨track, List.mem_of_getElem? htrack, List.mem_of_getElem? htext⟩,
      not_before_firstMention hx⟩
  have hsorted := pairwise_firstOccurrences_map (pairwise_mentions tracks field) hmention
  rw [map_fst_mentions] at hsorted
  refine hsorted.imp_of_mem fun {text text'} htext htext' hbefore => ?_
  rw [mem_firstOccurrences, mem_flatMap_mostRecent] at htext htext'
  obtain ⟨added, -, hadded, -⟩ := exists_latest htext
  obtain ⟨added', -, hadded', -⟩ := exists_latest htext'
  rw [Mention.Before, firstMention, firstMention, hadded, hadded'] at hbefore
  exact ⟨added, added', hadded, hadded', hbefore⟩

/-- **Suggestions are complete, without duplicates, and the most recent ones come first.** Behind
the general ones come the labels without a quote, each once and in the order in which they are given,
then the albums and then the artists of the tracks, without those that have a quote, each once and
the more recent ones first. There are no others. -/
theorem all_sorted (labels : List String) (tracks : List Track) :
    ∃ labelNames albums artists : List String,
      all labels tracks = general ++
        labelNames.map (fun name => ⟨"label:\"" ++ name ++ "\"", "Has label \"" ++ name ++ "\""⟩) ++
        albums.map (fun name => ⟨"album:\"" ++ name ++ "\"", "Album is " ++ name⟩) ++
        artists.map (fun name => ⟨"artist:\"" ++ name ++ "\"", "Artist is " ++ name⟩) ∧
      (labelNames.Nodup ∧ (∀ name, name ∈ labelNames ↔ name ∈ labels ∧ '"' ∉ name.toList) ∧
        labelNames.Pairwise fun a b => labels.idxOf a < labels.idxOf b) ∧
      (albums.Nodup ∧
        (∀ name, name ∈ albums ↔ (∃ track ∈ tracks, track.album = name) ∧ '"' ∉ name.toList) ∧
        albums.Pairwise (IsMoreRecent tracks .album)) ∧
      artists.Nodup ∧
        (∀ name, name ∈ artists ↔ (∃ track ∈ tracks, name ∈ track.artists) ∧
          '"' ∉ name.toList) ∧
        artists.Pairwise (IsMoreRecent tracks .artist) := by
  have hnodup := nodup_suggestedTexts labels tracks
  have hmem : ∀ field text, text ∈ suggestedTexts labels tracks field ↔
      text ∈ libraryTexts labels tracks field ∧ '"' ∉ text.toList :=
    fun _ _ => mem_suggestedTexts
  refine ⟨suggestedTexts labels tracks .label, suggestedTexts labels tracks .album,
    suggestedTexts labels tracks .artist, ?_, ⟨hnodup .label, hmem .label, ?_⟩,
    ⟨hnodup .album, fun name => ?_, ?_⟩, hnodup .artist, fun name => ?_, ?_⟩
  · simp only [all_eq, named_libraryTexts, Atom.canonical_text, quoteText, String.append_assoc]
    rfl
  · exact (pairwise_firstOccurrences labels).filter _
  · rw [hmem, mem_libraryTexts (by decide)]
    simp only [Track.texts, List.mem_singleton, eq_comm]
  · exact (pairwise_isMoreRecent tracks .album).filter _
  · rw [hmem, mem_libraryTexts (by decide)]
    rfl
  · exact (pairwise_isMoreRecent tracks .artist).filter _

end Suggestion

end TrackCriteria
