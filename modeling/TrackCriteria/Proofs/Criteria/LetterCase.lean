import TrackCriteria.Proofs.Criteria.DateLiteral
import TrackCriteria.Proofs.Parser.Respelling
import TrackCriteria.Proofs.Parser.Source
import TrackCriteria.Proofs.Token.LetterCase
import TrackCriteria.Proofs.Token.Spelling
import Mathlib.Data.List.Forall2
import Mathlib.Data.List.ReduceOption

/-!
# Case matters in quotes only

Two sources that are the same in lower case have the same tokens at the same places, up to the case
of texts. The case of a word or of a literal is not noticed any more (`lowerCase`), and the texts of
criteria are the quoted ones as they stand in the source (`Criteria.texts_of_parse`). So if the two
sources agree in quotes, they are the same criteria or wrong in the same way, and if they do not,
they are different criteria (`Criteria.parse_of_toLower_eq`).
-/

namespace TrackCriteria

open Text (isAsciiDigit isAsciiDigit_toLower toLower_toLower toLower_eq_iff_of_not_isAlphabetic
  toLower_eq_toLower_iff)
open Token (scan)

/-! ### Dates and ages -/

namespace DateSpec

open Text.Decimal (value)

theorem ofLetter?_toLower (c : Char) : AgeUnit.ofLetter? c.toLower = AgeUnit.ofLetter? c := by
  unfold AgeUnit.ofLetter?
  rw [toLower_toLower]

theorem isDigits_map_toLower (min max : Nat) (cs : List Char) :
    isDigits min max (cs.map Char.toLower) = isDigits min max cs := by
  have hdigit : isAsciiDigit ∘ Char.toLower = isAsciiDigit := funext isAsciiDigit_toLower
  rw [isDigits, isDigits, List.length_map, List.all_map, hdigit]

theorem map_toLower_of_isDigits {min max : Nat} {cs : List Char} (h : isDigits min max cs = true) :
    cs.map Char.toLower = cs := by
  obtain ⟨-, -, hdigits⟩ := isDigits_iff.mp h
  refine (List.map_congr_left fun c hc => ?_).trans (List.map_id cs)
  exact Text.of_isAsciiDigit (p := fun c => c.toLower = c) (by decide) (hdigits c hc)

theorem splitHyphens_map_toLower (cs : List Char) :
    splitHyphens (cs.map Char.toLower) = (splitHyphens cs).map (List.map Char.toLower) := by
  induction cs with
  | nil => rfl
  | cons c cs ih =>
    have hyphen : c.toLower = '-' ↔ c = '-' := toLower_eq_iff_of_not_isAlphabetic (by decide)
    rw [List.map_cons, splitHyphens, splitHyphens, ih]
    by_cases hc : c = '-'
    · rw [if_pos hc, if_pos (hyphen.mpr hc)]
      rfl
    · rw [if_neg hc, if_neg (mt hyphen.mp hc)]
      cases splitHyphens cs <;> rfl

theorem ageOfDigits?_map_toLower (unit : AgeUnit) (digits : List Char) :
    ageOfDigits? unit (digits.map Char.toLower) = ageOfDigits? unit digits := by
  by_cases h : isDigits 1 digits.length digits = true
  · rw [map_toLower_of_isDigits h]
  · have hlower := isDigits_map_toLower 1 digits.length digits
    simp [ageOfDigits?, hlower, h]

theorem calendarOfPieces?_map_toLower (pieces : List (List Char)) :
    calendarOfPieces? (pieces.map (List.map Char.toLower)) = calendarOfPieces? pieces := by
  match pieces with
  | [year] =>
    -- Digits stay what they are, and nothing else becomes one.
    by_cases h : isDigits 4 4 year = true
    · rw [List.map_singleton, map_toLower_of_isDigits h]
    · simp [calendarOfPieces?, isDigits_map_toLower, h]
  | [month, day, year] =>
    by_cases h : (isDigits 1 2 month && isDigits 1 2 day && isDigits 4 4 year) = true
    · obtain ⟨⟨hmonth, hday⟩, hyear⟩ : (_ ∧ _) ∧ _ := by simpa using h
      simp [map_toLower_of_isDigits hmonth, map_toLower_of_isDigits hday,
        map_toLower_of_isDigits hyear]
    · simp only [List.map_cons, List.map_nil, calendarOfPieces?, isDigits_map_toLower, if_neg h]
  | [] => rfl
  | [_, _] => rfl
  | _ :: _ :: _ :: _ :: _ => rfl

/-- A literal denotes the same in lower case. -/
theorem ofLiteral?_map_toLower (cs : List Char) :
    ofLiteral? (cs.map Char.toLower) = ofLiteral? cs := by
  unfold ofLiteral?
  rw [List.getLast?_map]
  cases cs.getLast? with
  | none => rfl
  | some c =>
    dsimp only [Option.map_some]
    rw [ofLetter?_toLower, ← List.map_dropLast, splitHyphens_map_toLower,
      calendarOfPieces?_map_toLower]
    cases AgeUnit.ofLetter? c with
    | some unit => exact ageOfDigits?_map_toLower unit _
    | none => rfl

end DateSpec

/-! ### Quoted texts -/

/-- The text of a quoted one. -/
def Token.Kind.text? : Token.Kind → Option String
  | .string text => some text
  | _ => none

/-- The text that a test asks for. -/
def Atom.text? : Atom → Option String
  | .text _ value => some value
  | _ => none

/-- The texts that criteria ask for, from left to right. -/
def Criteria.texts (e : Criteria) : List String :=
  e.atoms.filterMap Atom.text?

theorem Spells.text?_eq {ks : List Token.Kind} {a : Atom} (h : Spells ks a) :
    [a].filterMap Atom.text? = ks.filterMap Token.Kind.text? := by
  cases h <;> rfl

/-- Criteria ask for the quoted texts that they are spelled with. -/
theorem Derives.texts_eq {rule : Rule} {d : Nat} {ks : List Token.Kind} {e : Criteria}
    (h : Derives rule d ks e) : e.texts = ks.filterMap Token.Kind.text? := by
  unfold Criteria.texts
  -- Operators and parentheses have no text, so the texts are those of the parts.
  induction h with
  | disjunction _ ih => exact ih
  | or _ _ ihl ihr =>
    rw [Formula.atoms, List.filterMap_append, List.filterMap_append, ihl, ihr]
    rfl
  | conjunction _ ih => exact ih
  | and _ _ ihl ihr =>
    rw [Formula.atoms, List.filterMap_append, List.filterMap_append, ihl, ihr]
    rfl
  | operand _ ih => exact ih
  | not _ ih => exact ih
  | group _ ih =>
    rw [ih, List.filterMap_cons_none rfl, List.filterMap_append]
    exact (List.append_nil _).symm
  | test h => exact h.text?_eq

/-- The quoted texts of a source, from left to right. -/
def Token.texts (source : String) : List String :=
  (scan source).filterMap (·.kind.text?)

theorem Criteria.texts_of_parse {source : String} {e : Criteria}
    (h : Criteria.parse source = .ok e) : e.texts = Token.texts source := by
  obtain ⟨d, -, hderives⟩ := Criteria.parse_eq_ok.mp h
  rw [hderives.texts_eq, Token.texts, Token.kinds, List.filterMap_map]
  rfl

/-- A kind that has a quoted text is that of the quoted text. -/
theorem Token.Kind.text?_eq_some {kind : Token.Kind} {text : String} :
    kind.text? = some text ↔ kind = .string text := by
  cases kind <;> simp [text?]

theorem Token.Kind.text?_toLower (kind : Token.Kind) :
    kind.toLower.text? = kind.text?.map String.toLower := by
  cases kind <;> rfl

/-! ### Sources that agree in quotes -/

/-- Whether the quoted texts of a source stand, in their quotes, at the same places of another one.
-/
def QuotesAgree (source source' : String) : Prop :=
  ∀ t ∈ scan source, ∀ text, t.kind = .string text →
    ∃ pre post, t.span.Cuts source' pre ("\"" ++ text ++ "\"") post

/-- Quoted texts stand in a source as they are. -/
theorem quotesAgree_self (source : String) : QuotesAgree source source := by
  intro t ht text hkind
  obtain ⟨pre, spelling, post, hcuts, -, hspelled⟩ := Token.exists_cuts_of_mem_scan ht
  rw [hkind] at hspelled
  obtain ⟨rfl, -⟩ := hspelled
  exact ⟨pre, post, hcuts⟩

variable {source source' : String}

/-- The two sources have the same tokens, but for the case of texts. -/
theorem map_toLower_scan (h : source.toLower = source'.toLower) :
    (scan source).map Token.toLower = (scan source').map Token.toLower := by
  rw [← Token.scan_toLower, ← Token.scan_toLower, h]

theorem map_eq_map_iff_zip {α β : Type} {f : α → β} {l l' : List α} :
    l.map f = l'.map f ↔ l.length = l'.length ∧ ∀ {a b}, (a, b) ∈ l.zip l' → f a = f b := by
  rw [← List.forall₂_iff_zip, ← List.forall₂_eq_eq_eq, List.forall₂_map_left_iff,
    List.forall₂_map_right_iff]

/-- Tokens that are the same in lower case quote the same text if the sources agree in quotes. -/
theorem text?_eq_of_quotesAgree {t t' : Token} (hagree : QuotesAgree source source')
    (ht : t ∈ scan source) (ht' : t' ∈ scan source') (hlower : t.toLower = t'.toLower) :
    t.kind.text? = t'.kind.text? := by
  obtain ⟨hkind, hspan⟩ := Token.mk.inj hlower
  have htext : t.kind.text?.map String.toLower = t'.kind.text?.map String.toLower := by
    rw [← Token.Kind.text?_toLower, hkind, Token.Kind.text?_toLower]
  cases hquoted : t.kind.text? with
  | none =>
    rw [hquoted] at htext
    exact (Option.map_eq_none_iff.mp htext.symm).symm
  | some text =>
    rw [hquoted] at htext
    obtain ⟨text', hquoted', -⟩ := Option.map_eq_some_iff.mp htext.symm
    -- Both texts are what the other source has at this place.
    obtain ⟨pre, post, hcuts⟩ := hagree t ht text (Token.Kind.text?_eq_some.mp hquoted)
    obtain ⟨pre', post', hcuts'⟩ :=
      quotesAgree_self source' t' ht' text' (Token.Kind.text?_eq_some.mp hquoted')
    rw [hspan] at hcuts
    have hsame := hcuts.text_unique hcuts'
    rw [String.append_left_inj, String.append_right_inj] at hsame
    rw [hquoted', hsame]

/-- Where one source has a quoted text, the other one has one too. So the two agree in quotes iff
their quoted texts are the same. -/
theorem quotesAgree_iff (h : source.toLower = source'.toLower) :
    QuotesAgree source source' ↔
      (scan source).map (·.kind.text?) = (scan source').map (·.kind.text?) := by
  obtain ⟨hlength, hlower⟩ := map_eq_map_iff_zip.mp (map_toLower_scan h)
  rw [map_eq_map_iff_zip]
  constructor
  · -- Tokens at the same place are the same in lower case, so either both are quoted or none is.
    intro hagree
    refine ⟨hlength, fun hmem => ?_⟩
    obtain ⟨ht, ht'⟩ := List.of_mem_zip hmem
    exact text?_eq_of_quotesAgree hagree ht ht' (hlower hmem)
  · -- The other source has a token at the place of this one, with the same text.
    rintro ⟨-, htexts⟩ t ht text hkind
    have hpairs : (scan source).map (fun t => (t.span, t.kind.text?)) =
        (scan source').map fun t => (t.span, t.kind.text?) :=
      map_eq_map_iff_zip.mpr ⟨hlength, fun hmem =>
        Prod.ext (Token.mk.inj (hlower hmem)).2 (htexts hmem)⟩
    have hmem : (t.span, t.kind.text?) ∈ (scan source').map fun t => (t.span, t.kind.text?) :=
      hpairs ▸ List.mem_map_of_mem ht
    obtain ⟨t', ht', heq⟩ := List.mem_map.mp hmem
    obtain ⟨hspan, htext⟩ := Prod.mk.inj heq
    rw [← hspan]
    refine quotesAgree_self source' t' ht' text (Token.Kind.text?_eq_some.mp ?_)
    rw [htext, Token.Kind.text?_eq_some.mpr hkind]

/-- Two lists with values at the same places are the same if the values are. -/
theorem eq_of_reduceOption_eq {α : Type} {l l' : List (Option α)}
    (hplaces : l.map Option.isSome = l'.map Option.isSome)
    (hvalues : l.reduceOption = l'.reduceOption) : l = l' := by
  induction l generalizing l' with
  | nil => exact (List.map_eq_nil_iff.mp hplaces.symm).symm
  | cons a l ih =>
    cases l' with
    | nil => cases hplaces
    | cons a' l' =>
      obtain ⟨hhead, htail⟩ := List.cons.inj hplaces
      -- The heads are both values or both none, and equal values may be taken off.
      cases a with
      | none =>
        cases a' with
        | some a' => cases hhead
        | none => exact congrArg (none :: ·) (ih htail hvalues)
      | some a =>
        cases a' with
        | none => cases hhead
        | some a' =>
          rw [List.reduceOption_cons_of_some, List.reduceOption_cons_of_some] at hvalues
          obtain ⟨rfl, hrest⟩ := List.cons.inj hvalues
          exact congrArg (some a :: ·) (ih htail hrest)

/-- The two sources agree in quotes if they quote the same texts in the same order. -/
theorem quotesAgree_of_texts_eq (h : source.toLower = source'.toLower)
    (htexts : Token.texts source = Token.texts source') : QuotesAgree source source' := by
  refine (quotesAgree_iff h).mpr (eq_of_reduceOption_eq ?_ ?_)
  · have hplaces := congrArg (List.map (·.kind.text?.isSome)) (map_toLower_scan h)
    simpa [Function.comp_def, Token.toLower, Token.Kind.text?_toLower] using hplaces
  · simpa [Token.texts, List.reduceOption, List.filterMap_map, Function.comp_def] using htexts

/-! ### What a parser does not notice -/

/-- Words that are no keywords, and literals, in lower case. -/
def lowerCase : Respelling where
  word := String.toLower
  literal := String.toLower
  place := id
  ofLiteral?_literal l := by
    rw [Text.toList_toLower]
    exact DateSpec.ofLiteral?_map_toLower l.toList
  place_front := rfl

/-- A token with a quoted text put in. -/
def Token.withText (t : Token) : Option String → Token
  | some text => ⟨.string text, t.span⟩
  | none => t

/-- Quoted texts are not put in lower case. -/
theorem map_lowerCase_token (ts : List Token) :
    ts.map lowerCase.token =
      List.zipWith Token.withText (ts.map Token.toLower) (ts.map (·.kind.text?)) := by
  rw [List.zipWith_map, List.zipWith_self]
  refine List.map_congr_left ?_
  rintro ⟨kind, span⟩ -
  cases kind <;> rfl

theorem mapError_eq_ok {x : Except SyntaxError Criteria} {f : SyntaxError → SyntaxError}
    {e : Criteria} : x.mapError f = .ok e ↔ x = .ok e := by
  cases x <;> simp [Except.mapError]

theorem mapError_eq_error {x : Except SyntaxError Criteria} {f : SyntaxError → SyntaxError}
    {err : SyntaxError} : x.mapError f = .error err ↔ ∃ err', x = .error err' ∧ f err' = err := by
  cases x <;> simp [Except.mapError]

/-- Errors that are the same but for the case of words and literals are of one kind, at one place.
-/
theorem ctorIdx_eq_and_span?_eq {err err' : SyntaxError}
    (h : lowerCase.error err = lowerCase.error err') :
    err.ctorIdx = err'.ctorIdx ∧ err.span? = err'.span? := by
  have hkind := congrArg SyntaxError.ctorIdx h
  have hspan := congrArg SyntaxError.span? h
  simp only [Respelling.error, SyntaxError.ctorIdx_respell, SyntaxError.span?_respell]
    at hkind hspan
  have hid : ∀ s? : Option Span, s?.map lowerCase.place = s? := fun s? => Option.map_id_apply
  rw [hid, hid] at hspan
  exact ⟨hkind, hspan⟩

/-- Sources that agree in quotes are read alike, but for the case of words and literals in errors.
-/
theorem mapError_parse (h : source.toLower = source'.toLower)
    (hagree : QuotesAgree source source') :
    (Criteria.parse source).mapError lowerCase.error =
      (Criteria.parse source').mapError lowerCase.error := by
  rw [Criteria.parse_eq_ofTokens, Criteria.parse_eq_ofTokens, ← Respelling.ofTokens_map,
    ← Respelling.ofTokens_map, map_lowerCase_token, map_lowerCase_token, map_toLower_scan h,
    (quotesAgree_iff h).mp hagree]

/-- **Case matters in quotes only.** Two sources that are the same in lower case have their tokens
at the same places. If they agree in quotes, both are the same criteria, or the same error at the
same place, in which words and literals may be in another case. The texts of criteria are the quoted
ones as they stand in the source, so if the two do not agree in quotes, the criteria are different
ones. -/
theorem Criteria.parse_of_toLower_eq (h : source.toLower = source'.toLower) :
    (scan source).map (·.span) = (scan source').map (·.span) ∧
    (QuotesAgree source source' →
      (∀ e, Criteria.parse source = .ok e ↔ Criteria.parse source' = .ok e) ∧
      ∀ err, Criteria.parse source = .error err → ∃ err', Criteria.parse source' = .error err' ∧
        err'.ctorIdx = err.ctorIdx ∧ err'.span? = err.span? ∧
          lowerCase.error err' = lowerCase.error err) ∧
    (QuotesAgree source source ∧
      ∀ e, Criteria.parse source = .ok e → e.texts = Token.texts source) ∧
    (¬ QuotesAgree source source' → ∀ e e', Criteria.parse source = .ok e →
      Criteria.parse source' = .ok e' → e ≠ e') := by
  refine ⟨?_, fun hagree => ⟨fun e => ?_, fun err herr => ?_⟩,
    ⟨quotesAgree_self source, fun e => Criteria.texts_of_parse⟩, ?_⟩
  · have hspans := congrArg (List.map Token.span) (map_toLower_scan h)
    simpa [Function.comp_def, Token.toLower] using hspans
  · rw [← mapError_eq_ok, mapError_parse h hagree, mapError_eq_ok]
  · have hlower : (Criteria.parse source').mapError lowerCase.error =
        .error (lowerCase.error err) := by
      rw [← mapError_parse h hagree, herr]
      rfl
    obtain ⟨err', herr', hrespelled⟩ := mapError_eq_error.mp hlower
    obtain ⟨hkind, hspan⟩ := ctorIdx_eq_and_span?_eq hrespelled
    exact ⟨err', herr', hkind, hspan, hrespelled⟩
  · -- The same criteria have the same texts, and then the sources would agree in quotes.
    rintro hagree e _ he he' rfl
    refine hagree (quotesAgree_of_texts_eq h ?_)
    rw [← Criteria.texts_of_parse he, Criteria.texts_of_parse he']

/-- Case does not matter in `Added<3D && label:"Ab"`, except in the quoted text. -/
theorem Criteria.parse_of_toLower_eq_label :
    ∃ source same other : String, (source = "Added<3D && label:\"Ab\"" ∧
        same = "aDDED<3d && LABEL:\"Ab\"" ∧ other = "Added<3D && label:\"aB\"") ∧
      source.toLower = same.toLower ∧ QuotesAgree source same ∧
      source.toLower = other.toLower ∧ ¬ QuotesAgree source other ∧
      ∃ e e' : Criteria, e = .and (.atom (.date .added .lt (.age 3 .day)))
          (.atom (.text .label "Ab")) ∧ e ≠ e' ∧
        Criteria.parse source = .ok e ∧ Criteria.parse same = .ok e ∧
        Criteria.parse other = .ok e' := by
  have hsame : "Added<3D && label:\"Ab\"".toLower = "aDDED<3d && LABEL:\"Ab\"".toLower :=
    toLower_eq_toLower_iff.mpr (by decide +kernel)
  have hother : "Added<3D && label:\"Ab\"".toLower = "Added<3D && label:\"aB\"".toLower :=
    toLower_eq_toLower_iff.mpr (by decide +kernel)
  have hagree : QuotesAgree "Added<3D && label:\"Ab\"" "aDDED<3d && LABEL:\"Ab\"" :=
    (quotesAgree_iff hsame).mpr (by decide +kernel)
  have hdisagree : ¬ QuotesAgree "Added<3D && label:\"Ab\"" "Added<3D && label:\"aB\"" :=
    mt (quotesAgree_iff hother).mp (by decide +kernel)
  have hparse : Criteria.parse "Added<3D && label:\"Ab\"" =
      .ok (.and (.atom (.date .added .lt (.age 3 .day))) (.atom (.text .label "Ab"))) := by
    decide +kernel
  have hparse' : Criteria.parse "Added<3D && label:\"aB\"" =
      .ok (.and (.atom (.date .added .lt (.age 3 .day))) (.atom (.text .label "aB"))) := by
    decide +kernel
  obtain ⟨-, hok, -⟩ := Criteria.parse_of_toLower_eq hsame
  obtain ⟨-, -, -, hne⟩ := Criteria.parse_of_toLower_eq hother
  exact ⟨_, _, _, ⟨rfl, rfl, rfl⟩, hsame, hagree, hother, hdisagree, _, _, rfl,
    hne hdisagree _ _ hparse hparse', hparse, ((hok hagree).1 _).mp hparse, hparse'⟩

end TrackCriteria
