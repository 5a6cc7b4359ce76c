import TrackCriteria.Proofs.Parser.Citation
import TrackCriteria.Proofs.Parser.Respelling
import TrackCriteria.Proofs.Token.Gap

/-!
# Layout does not matter

A source is cut into pieces, and white space is put in in front of each of them (`Layout`). Where no
cut goes through a token, all tokens stay what they are, and each moves by the bytes that are put in
in front of it (`scanFrom_spaced`). So the criteria are read as before, and what is wrong with them
is reported as before, at the place where it stands now (`parse_spaced`).
-/

namespace TrackCriteria

open Text (byteLength byteLength_append isWhiteSpace)
open Token (scan scanFrom)

/-! ### Sources in pieces -/

/-- A piece of a source, and white space that is put in in front of it. -/
structure Piece where
  blanks : List Char
  text : List Char
  isWhiteSpace_of_mem : ∀ b ∈ blanks, isWhiteSpace b = true

/-- A source in pieces. To put white space in at the end, the last piece is an empty one. -/
abbrev Layout := List Piece

namespace Layout

/-- The source as it was. -/
def source (l : Layout) : String :=
  String.ofList (l.flatMap (·.text))

/-- The source with the white space put in. -/
def spaced (l : Layout) : String :=
  String.ofList (l.flatMap fun p => p.blanks ++ p.text)

/-- The bytes of the source that pieces start at. The first piece starts at `start`. -/
def cuts (start : Nat) : Layout → List Nat
  | [] => []
  | p :: l => start :: cuts (start + byteLength p.text) l

/-- The number of bytes that are put in at or in front of a byte of the source. -/
def inserted (start : Nat) : Layout → Nat → Nat
  | [], _ => 0
  | p :: l, byte =>
    (if start ≤ byte then byteLength p.blanks else 0) +
      inserted (start + byteLength p.text) l byte

/-- A span behind the white space that is put in in front of it. -/
def shift (l : Layout) (s : Span) : Span :=
  s.later (inserted 0 l s.start)

/-- Whether white space is put in between tokens only. -/
def IsBetweenTokens (l : Layout) : Prop :=
  ∀ cut ∈ cuts 0 l, ∀ t ∈ scan (source l), t.IsBeside cut

instance (l : Layout) : Decidable l.IsBetweenTokens :=
  inferInstanceAs (Decidable (∀ cut ∈ cuts 0 l, ∀ t ∈ scan (source l), t.IsBeside cut))

/-! ### The tokens of a source -/

/-- Nothing is put in in front of the first piece. -/
theorem inserted_of_lt {start byte : Nat} (h : byte < start) (l : Layout) :
    inserted start l byte = 0 := by
  induction l generalizing start with
  | nil => rfl
  | cons p l ih =>
    rw [inserted, if_neg (Nat.not_le.mpr h), ih (Nat.lt_add_right _ h)]

/-- A byte is behind a cut with what later pieces put in iff it is without that. -/
theorem le_add_inserted_iff {cut start byte : Nat} (h : cut ≤ start) (l : Layout) :
    cut ≤ byte + inserted start l byte ↔ cut ≤ byte := by
  by_cases hle : cut ≤ byte
  · exact iff_of_true (Nat.le_add_right_of_le hle) hle
  · rw [inserted_of_lt (by omega), Nat.add_zero]

/-- White space that later pieces put in does not push a token across a cut. -/
theorem isBeside_later {t : Token} {cut start : Nat} (hlt : t.span.start < t.span.stop)
    (h : cut ≤ start) (l : Layout) (hcut : t.IsBeside cut) :
    Token.IsBeside ⟨t.kind, t.span.later (inserted start l t.span.start)⟩ cut := by
  rcases hcut with hbehind | hbefore
  · exact .inl ((le_add_inserted_iff h l).mpr hbehind)
  · refine .inr ?_
    rw [inserted_of_lt (by omega)]
    exact hbefore

/-- The tokens of a source with no white space put into its front. -/
theorem scanFrom_spaced (l : Layout) (pre : List Char)
    (hcuts : ∀ cut ∈ cuts (byteLength pre) l,
      ∀ t ∈ scanFrom 0 0 (pre ++ l.flatMap (·.text)), t.IsBeside cut)
    (hclosed : ∀ t ∈ scanFrom 0 0 (pre ++ l.flatMap (·.text)), t.kind ≠ .unterminatedString) :
    scanFrom 0 0 (pre ++ l.flatMap fun p => p.blanks ++ p.text) =
      (scanFrom 0 0 (pre ++ l.flatMap (·.text))).map fun t =>
        ⟨t.kind, t.span.later (inserted (byteLength pre) l t.span.start)⟩ := by
  induction l generalizing pre with
  | nil => exact (List.map_id _).symm
  | cons p l ih =>
    obtain ⟨hcut, hcuts⟩ := List.forall_mem_cons.mp hcuts
    -- White space is put in in front of the later pieces, and then in front of this one.
    have hlater := ih (pre ++ p.text)
    simp only [List.flatMap_cons, List.append_assoc, byteLength_append]
      at hcut hcuts hclosed hlater ⊢
    replace hlater := hlater hcuts hclosed
    have hle : byteLength pre ≤ byteLength pre + byteLength p.text := Nat.le_add_right _ _
    rw [Token.scanFrom_insert p.isWhiteSpace_of_mem, hlater, List.map_map]
    · refine List.map_congr_left fun t _ => ?_
      simp only [Function.comp_apply, Span.later_later, inserted]
      rw [Nat.add_comm (inserted _ _ _)]
      congr 4
      exact propext (le_add_inserted_iff hle l)
    · rw [hlater]
      refine List.forall_mem_map.mpr fun t ht => ?_
      exact isBeside_later (Token.start_lt_stop_of_mem_scanFrom ht) hle l (hcut t ht)
    · rw [hlater]
      exact List.forall_mem_map.mpr hclosed

/-- White space between tokens moves the tokens behind it, and leaves them what they are. -/
theorem scan_spaced {l : Layout} (hcuts : l.IsBetweenTokens)
    (hclosed : ∀ t ∈ scan l.source, t.kind ≠ .unterminatedString) :
    scan l.spaced = (scan l.source).map fun t => ⟨t.kind, l.shift t.span⟩ := by
  unfold IsBetweenTokens source at hcuts
  unfold source at hclosed
  unfold source spaced
  rw [scan, String.toList_ofList] at hcuts hclosed
  rw [scan, scan, String.toList_ofList, String.toList_ofList]
  exact scanFrom_spaced l [] hcuts hclosed

/-! ### Errors at other places -/

/-- The places of tokens move with them. That of an error that is about no token stays. -/
def respelling (l : Layout) : Respelling where
  word := id
  literal := id
  place s := if s = ⟨0, 0⟩ then s else l.shift s
  ofLiteral?_literal _ := rfl
  place_front := if_pos rfl

/-- An error that is about a token moves with it. -/
theorem error_respelling {l : Layout} {err : SyntaxError} (h : err.span? ≠ some ⟨0, 0⟩) :
    l.respelling.error err = err.respell id id l.shift := by
  refine SyntaxError.respell_congr fun s hs => if_neg ?_
  rintro rfl
  exact h hs

theorem parse_spaced_eq {l : Layout} (hcuts : l.IsBetweenTokens)
    (hclosed : ∀ t ∈ scan l.source, t.kind ≠ .unterminatedString) :
    Criteria.parse l.spaced = (Criteria.parse l.source).mapError l.respelling.error := by
  have htokens : scan l.spaced = (scan l.source).map l.respelling.token := by
    rw [scan_spaced hcuts hclosed]
    refine List.map_congr_left fun t ht => ?_
    have hplace : l.respelling.place t.span = l.shift t.span := if_neg (Token.span_ne_front ht)
    rw [Respelling.token, Token.respell, hplace]
    exact congrArg (Token.mk · _) t.kind.respell_id.symm
  rw [Criteria.parse_eq_ofTokens, Criteria.parse_eq_ofTokens, htokens, Respelling.ofTokens_map]

/-- **Layout does not matter.** White space that is put in between tokens, at the front or at the
end leaves the tokens what they are, each moved by the bytes that are put in in front of it. The
criteria are the same, or else the error is, at the place where the token it is about stands now. An
error past the last token that is about no token stays at the front of the source. -/
theorem parse_spaced {l : Layout} (hcuts : l.IsBetweenTokens)
    (hclosed : ∀ t ∈ scan l.source, t.kind ≠ .unterminatedString) :
    (scan l.spaced = (scan l.source).map fun t => ⟨t.kind, l.shift t.span⟩) ∧
    (∀ e, Criteria.parse l.source = .ok e → Criteria.parse l.spaced = .ok e) ∧
    ∀ err, Criteria.parse l.source = .error err →
      err = .nestingTooDeep ⟨0, 0⟩ ∧ (Parser.ofTokens (scan l.source)).parse.2.rest = [] ∧
          Criteria.parse l.spaced = .error err ∨
        err.span? ≠ some ⟨0, 0⟩ ∧
          Criteria.parse l.spaced = .error (err.respell id id l.shift) := by
  have hparse := parse_spaced_eq hcuts hclosed
  refine ⟨scan_spaced hcuts hclosed, fun e h => ?_, fun err h => ?_⟩
  · rw [hparse, h]
    rfl
  · rw [h] at hparse
    -- Only the place of an error that is about no token is the front of the source.
    have hmoves : err.span? ≠ some ⟨0, 0⟩ →
        Criteria.parse l.spaced = .error (err.respell id id l.shift) := by
      intro hspan
      rw [hparse, ← error_respelling hspan]
      rfl
    rcases Criteria.isCited_of_parse_eq_error h with hnone | ⟨t, ht, habout⟩ | ⟨rfl, hrest⟩
    · have hspan : err.span? ≠ some ⟨0, 0⟩ := by simp [hnone]
      exact .inr ⟨hspan, hmoves hspan⟩
    · have hspan : err.span? ≠ some ⟨0, 0⟩ := by
        intro hfront
        rw [habout.span_eq] at hfront
        exact Token.span_ne_front ht (Option.some.inj hfront)
      exact .inr ⟨hspan, hmoves hspan⟩
    · refine .inl ⟨rfl, hrest, ?_⟩
      rw [hparse]
      exact congrArg Except.error (congrArg SyntaxError.nestingTooDeep l.respelling.place_front)

/-- Six bytes of white space are put into `name:"a b"&&(mood` in front of the unknown word, two of
them a single character. The blank in the quoted text is none of them. -/
theorem parse_spaced_mood : ∃ l : Layout,
    (l.source = "name:\"a b\"&&(mood" ∧ l.spaced = "  name\u00a0:\n\"a b\"&&( mood\t") ∧
      l.IsBetweenTokens ∧ (∀ t ∈ scan l.source, t.kind ≠ .unterminatedString) ∧
      Criteria.parse l.source = .error (.unknownKeyword "mood" ⟨13, 17⟩) ∧
      Criteria.parse l.spaced = .error (.unknownKeyword "mood" ⟨19, 23⟩) := by
  let l : Layout := [⟨[' ', ' '], "name".toList, List.all_eq_true.mp rfl⟩,
    ⟨['\u00a0'], [':'], List.all_eq_true.mp rfl⟩,
    ⟨['\n'], "\"a b\"&&(".toList, List.all_eq_true.mp rfl⟩,
    ⟨[' '], "mood".toList, List.all_eq_true.mp rfl⟩, ⟨['\t'], [], List.all_eq_true.mp rfl⟩]
  have hcuts : l.IsBetweenTokens := by decide +kernel
  have hclosed : ∀ t ∈ scan l.source, t.kind ≠ .unterminatedString := by decide +kernel
  have hparse : Criteria.parse l.source = .error (.unknownKeyword "mood" ⟨13, 17⟩) := by
    decide +kernel
  refine ⟨l, ⟨by decide +kernel, by decide +kernel⟩, hcuts, hclosed, hparse, ?_⟩
  rcases (parse_spaced hcuts hclosed).2.2 _ hparse with ⟨hdeep, -⟩ | ⟨-, hmoved⟩
  · cases hdeep
  · exact hmoved

end Layout

end TrackCriteria
