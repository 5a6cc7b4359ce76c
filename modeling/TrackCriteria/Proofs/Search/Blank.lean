import TrackCriteria.Proofs.Parser.Break
import TrackCriteria.Proofs.Parser.Citation
import TrackCriteria.Proofs.Token.Tiling
import TrackCriteria.Search

/-!
# Blank input

Trimming a source, scanning it and parsing it are three ways to find out that there is nothing but
white space in it, and they come to the same (`Text.trim_eq_empty_iff`, `Token.scan_eq_nil_iff`,
`Criteria.parse_eq_error_empty_iff`). Blank input is no error of a filter, and every other error is
one (`Predicate.filterOfSource_of_parse_error`). So an error is never taken for the wish to see all
tracks (`Predicate.filterOfSource_agrees`).
-/

namespace TrackCriteria

open Calendar (ZonedTime)

variable {source : String} {now : ZonedTime}

/-! ### Nothing but white space -/

theorem Text.isBlank_iff : Text.isBlank source = true ↔
    ∀ c ∈ source.toList, Text.isWhiteSpace c = true :=
  List.all_eq_true

theorem Text.trim_eq_empty_iff : Text.trim source = "" ↔
    ∀ c ∈ source.toList, Text.isWhiteSpace c = true := by
  unfold trim skipWhiteSpace
  rw [String.ofList_eq_empty_iff, List.reverse_eq_nil_iff, List.dropWhile_eq_nil_iff]
  simp only [List.mem_reverse]
  constructor
  · intro h c hc
    rw [← List.takeWhile_append_dropWhile (p := isWhiteSpace) (l := source.toList)] at hc
    rcases List.mem_append.mp hc with hfront | hback
    · exact List.mem_takeWhile_imp hfront
    · exact h c hback
  · exact fun h c hc => h c ((List.dropWhile_suffix _).mem hc)

theorem Token.scan_eq_nil_iff : Token.scan source = [] ↔
    ∀ c ∈ source.toList, Text.isWhiteSpace c = true := by
  have hnext : next? 0 source.toList = none ↔ _ := next?_eq_none
  rw [eq_comm, ← yields_iff_eq_scan, ← hnext]
  constructor
  · intro h
    cases h with
    | stop hnone => exact hnone
  · exact Yields.stop

/-! ### Nothing to parse -/

/-- Only a parser without tokens finds that there are none. -/
theorem Parser.parse_eq_error_empty_iff {p : Parser} :
    p.parse.1 = .error .empty ↔ p.tokens = [] := by
  constructor
  · intro h
    by_contra hne
    cases hdisj : disjunction (operand (maxDepth - p.depth)) p with
    | error err q =>
      obtain ⟨front, rest, -, -, hoff⟩ := disjunction_breaks (operand_breaks _) p err q hdisj
      rw [parse_of_expression_error (expression_error hne hdisj)] at h
      cases h
      exact hoff.ne_outside.1 rfl
    | ok e q =>
      obtain ⟨tokens, rest, depth, groups⟩ := q
      cases rest with
      | nil =>
        rw [parse, expression_eq_ok.mpr ⟨hne, hdisj, rfl⟩] at h
        cases h
      | cons t rest =>
        -- The error is about the token behind the expression.
        rw [parse_of_expression_error (expression_of_cons hne hdisj)] at h
        split at h <;> cases h
  · obtain ⟨tokens, rest, depth, groups⟩ := p
    rintro rfl
    rfl

/-- The error for tokens that are no part of the language is about one of them. -/
theorem Criteria.parse_eq_error_empty_iff :
    Criteria.parse source = .error .empty ↔ Token.scan source = [] := by
  constructor
  · intro h
    cases htokens : tokenize source with
    | error err =>
      -- An error about a token has a place, and to be empty has none.
      obtain ⟨t, -, habout⟩ := exists_isAbout_of_mapM_check htokens
      rw [Criteria.parse, htokens] at h
      cases h
      cases habout.span_eq
    | ok tokens =>
      rw [parse_of_tokenize htokens] at h
      obtain ⟨rfl, -⟩ := tokenize_eq_ok.mp htokens
      exact Parser.parse_eq_error_empty_iff.mp h
  · intro h
    unfold Criteria.parse tokenize
    rw [h]
    rfl

/-! ### No filter -/

theorem isBlank_iff_parse : Text.isBlank source = true ↔ Criteria.parse source = .error .empty := by
  rw [Text.isBlank_iff, Criteria.parse_eq_error_empty_iff, Token.scan_eq_nil_iff]

namespace Predicate

theorem filterOfSource_of_parse_ok {e : Criteria} (h : Criteria.parse source = .ok e) :
    filterOfSource source now = .ok (some (e.resolve now)) := by
  have hblank : ¬ Text.isBlank source = true := by
    rw [isBlank_iff_parse, h]
    rintro ⟨⟩
  rw [filterOfSource, if_neg hblank, ofSource, h]
  rfl

/-- The only error of a source that is none of a filter is that it is empty. -/
theorem filterOfSource_of_parse_error {err : SyntaxError} (h : Criteria.parse source = .error err) :
    filterOfSource source now = if err = .empty then .ok none else .error err := by
  have hblank : Text.isBlank source = true ↔ err = .empty := by
    rw [isBlank_iff_parse, h, Except.error.injEq]
  rw [filterOfSource, ofSource, h]
  simp only [hblank]
  rfl

theorem filterOfSource_eq_none_iff :
    filterOfSource source now = .ok none ↔ Criteria.parse source = .error .empty := by
  cases h : Criteria.parse source with
  | ok e => simp [filterOfSource_of_parse_ok h]
  | error err =>
    rw [filterOfSource_of_parse_error h]
    by_cases herr : err = .empty <;> simp [herr]

/-- A filter has the predicate of the criteria that its source spells. -/
theorem filterOfSource_eq_some_iff {p : Predicate} :
    filterOfSource source now = .ok (some p) ↔
      ∃ e, Criteria.parse source = .ok e ∧ p = e.resolve now := by
  cases h : Criteria.parse source with
  | ok e => simp [filterOfSource_of_parse_ok h, eq_comm]
  | error err =>
    rw [filterOfSource_of_parse_error h]
    by_cases herr : err = .empty <;> simp [herr]

theorem filterOfSource_eq_error_iff {err : SyntaxError} :
    filterOfSource source now = .error err ↔
      err ≠ .empty ∧ Criteria.parse source = .error err := by
  cases h : Criteria.parse source with
  | ok e => simp [filterOfSource_of_parse_ok h]
  | error err' =>
    rw [filterOfSource_of_parse_error h]
    -- Only the error of a blank source is forgiven.
    by_cases herr : err' = .empty
    · rw [if_pos herr, herr]
      simp [eq_comm]
    · rw [if_neg herr]
      constructor
      · rintro ⟨⟩
        exact ⟨herr, rfl⟩
      · rintro ⟨-, ⟨⟩⟩
        rfl

end Predicate

/-- A search has the errors of the filter, and an answer if there are none. -/
theorem search_eq_map (source : String) (now : ZonedTime) (tracks : List Track) :
    search source now tracks =
      (Predicate.filterOfSource source now).map (SearchSummary.ofFilter · tracks) := by
  unfold search
  cases Predicate.filterOfSource source now <;> rfl

/-- **Blank input.** Trimming a source leaves nothing of it iff it has no tokens, iff it is empty to
a parser, and iff it asks for no filter. It is no error of a filter to be empty. All other sources
are as good as the criteria that they spell: the filter is the predicate of these, or there is the
same error. A search succeeds with the filter and fails with it. -/
theorem Predicate.filterOfSource_agrees (source : String) (now : ZonedTime) :
    ((Text.trim source = "" ↔ Token.scan source = []) ∧
      (Token.scan source = [] ↔ Criteria.parse source = .error .empty) ∧
      (Criteria.parse source = .error .empty ↔ filterOfSource source now = .ok none)) ∧
    filterOfSource source now ≠ .error .empty ∧
    ((∀ p, filterOfSource source now = .ok (some p) ↔
        ∃ e, Criteria.parse source = .ok e ∧ p = e.resolve now) ∧
      ∀ err, filterOfSource source now = .error err ↔
        Text.trim source ≠ "" ∧ Criteria.parse source = .error err) ∧
    ∀ tracks,
      ((∃ summary, search source now tracks = .ok summary) ↔
        ∃ filter, filterOfSource source now = .ok filter) ∧
      ∀ err, search source now tracks = .error err ↔ filterOfSource source now = .error err := by
  refine ⟨⟨?_, Criteria.parse_eq_error_empty_iff.symm, filterOfSource_eq_none_iff.symm⟩, ?_,
    ⟨fun p => filterOfSource_eq_some_iff, fun err => ?_⟩, fun tracks => ?_⟩
  · rw [Text.trim_eq_empty_iff, Token.scan_eq_nil_iff]
  · intro h
    exact (filterOfSource_eq_error_iff.mp h).1 rfl
  · -- An error other than the empty one is the same as a source that is not blank.
    have hempty : Text.trim source = "" ↔ Criteria.parse source = .error .empty := by
      rw [Text.trim_eq_empty_iff, Criteria.parse_eq_error_empty_iff, Token.scan_eq_nil_iff]
    rw [filterOfSource_eq_error_iff, Ne, Ne, hempty]
    refine and_congr_left fun herr => ?_
    rw [herr, Except.error.injEq]
  · rw [search_eq_map]
    cases filterOfSource source now <;> simp [Except.map]

/-- An ideographic space is white space, and a space of no width is none. -/
example : Text.trim "\u3000\t" = "" ∧ Criteria.parse "\u3000\t" = .error .empty ∧
    Criteria.parse "\u200b" = .error (.illegalCharacter '\u200b' ⟨0, 3⟩) := by
  decide +kernel

end TrackCriteria
