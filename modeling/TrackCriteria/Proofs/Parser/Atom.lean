import TrackCriteria.Proofs.Parser.Grammar
import TrackCriteria.Proofs.Parser.Step

/-!
# Parsing tests

The parser reads a test iff the next tokens spell it, and passes just these (`test_eq_ok`).
-/

namespace TrackCriteria.Parser

variable {p q : Parser}

theorem fieldText_eq_ok {value : String} :
    fieldText p = .ok value q ↔
      ∃ colon text rest, p.rest = colon :: text :: rest ∧ colon.kind = .colon ∧
        text.kind = .string value ∧ q = { p with rest := rest } := by
  rw [fieldText, bind_eq_ok]
  constructor
  · -- Two tokens have been taken, and each was let through for its kind.
    rintro ⟨_, p', hcolon, htext⟩
    obtain ⟨colon, rest, hrest, hkind, rfl⟩ := expect_eq_ok.mp hcolon
    obtain ⟨text, rest', hrest', hkind', rfl⟩ := expect_eq_ok.mp htext
    refine ⟨colon, text, rest', hrest.trans (congrArg _ hrest'), ?_, ?_, rfl⟩
    · by_contra hne
      rw [if_neg hne] at hkind
      cases hkind
    · split at hkind'
      · next h =>
        cases hkind'
        exact h
      · cases hkind'
  · rintro ⟨colon, text, rest, hrest, hcolon, htext, rfl⟩
    refine ⟨(), { p with rest := text :: rest }, ?_, ?_⟩
    · exact expect_eq_ok.mpr ⟨colon, text :: rest, hrest, if_pos hcolon, rfl⟩
    · refine expect_eq_ok.mpr ⟨text, rest, rfl, ?_, rfl⟩
      rw [htext]

theorem comparison_eq_ok {op : Comparison} :
    comparison p = .ok op q ↔
      ∃ t rest, p.rest = t :: rest ∧ t.kind = .comparison op ∧ q = { p with rest := rest } := by
  obtain ⟨tokens, rest, depth, groups⟩ := p
  cases rest with
  | nil =>
    constructor
    · rintro ⟨⟩
    · rintro ⟨t, rest, ⟨⟩, -⟩
  | cons t rest =>
    obtain ⟨kind, span⟩ := t
    constructor
    · intro h
      -- A token of any other kind is taken, but then it is an error.
      cases kind with
      | comparison op' =>
        cases h
        exact ⟨_, rest, rfl, rfl, rfl⟩
      | _ => cases h
    · rintro ⟨t', rest', ⟨⟩, hkind, rfl⟩
      obtain rfl : kind = .comparison op := hkind
      rfl

theorem dateSpec_eq_ok {spec : DateSpec} :
    dateSpec p = .ok spec q ↔
      ∃ t rest literal, p.rest = t :: rest ∧ t.kind = .value literal ∧
        DateSpec.ofLiteral? literal.toList = some spec ∧ q = { p with rest := rest } := by
  rw [dateSpec, bind_eq_ok]
  constructor
  · rintro ⟨⟨literal, span⟩, p', hvalue, hspec⟩
    obtain ⟨t, rest, hrest, hkind, rfl⟩ := expect_eq_ok.mp hvalue
    refine ⟨t, rest, literal, hrest, ?_, ?_⟩
    · split at hkind
      · next h =>
        cases hkind
        exact h
      · cases hkind
    · -- The value has been taken by now, whether it is the literal of a date or not.
      dsimp only at hspec
      cases h : DateSpec.ofLiteral? literal.toList with
      | none =>
        rw [h] at hspec
        cases hspec
      | some spec' =>
        rw [h] at hspec
        cases hspec
        exact ⟨rfl, rfl⟩
  · rintro ⟨t, rest, literal, hrest, hkind, hspec, rfl⟩
    refine ⟨(literal, t.span), { p with rest := rest }, ?_, ?_⟩
    · refine expect_eq_ok.mpr ⟨t, rest, hrest, ?_, rfl⟩
      rw [hkind]
    · dsimp only
      rw [hspec]
      rfl

/-- A test is read from the tokens that spell it, the one with the keyword aside. -/
theorem test_eq_ok {k : Keyword} {a : Atom} :
    test k p = .ok a q ↔
      ∃ ts rest, p.rest = ts ++ rest ∧ q = { p with rest := rest } ∧
        Spells (.keyword k :: ts.map (·.kind)) a := by
  constructor
  · intro h
    -- A flag stands for itself. Behind the word of a field come two more tokens.
    cases k with
    | clean =>
      cases h
      exact ⟨[], p.rest, rfl, rfl, .clean⟩
    | explicit =>
      cases h
      exact ⟨[], p.rest, rfl, rfl, .explicit⟩
    | unlabeled =>
      cases h
      exact ⟨[], p.rest, rfl, rfl, .unlabeled⟩
    | text field =>
      obtain ⟨value, p', hvalue, hpure⟩ := bind_eq_ok.mp h
      obtain ⟨colon, text, rest, hrest, hcolon, htext, rfl⟩ := fieldText_eq_ok.mp hvalue
      cases hpure
      refine ⟨[colon, text], rest, hrest, rfl, ?_⟩
      rw [List.map_cons, List.map_singleton, hcolon, htext]
      exact .text field value
    | date field =>
      obtain ⟨op, p', hop, h⟩ := bind_eq_ok.mp h
      obtain ⟨spec, p'', hspec, hpure⟩ := bind_eq_ok.mp h
      obtain ⟨t, rest, hrest, hkind, rfl⟩ := comparison_eq_ok.mp hop
      obtain ⟨t', rest', literal, hrest', hkind', hliteral, rfl⟩ := dateSpec_eq_ok.mp hspec
      cases hpure
      refine ⟨[t, t'], rest', hrest.trans (congrArg _ hrest'), rfl, ?_⟩
      rw [List.map_cons, List.map_singleton, hkind, hkind']
      exact .date field op hliteral
  · obtain ⟨tokens, _, depth, groups⟩ := p
    rintro ⟨ts, rest, rfl, rfl, hspells⟩
    -- Each way to spell a test fixes the keyword and the number of tokens after it.
    generalize hks : Token.Kind.keyword k :: ts.map (·.kind) = ks at hspells
    cases hspells with
    | clean =>
      simp only [List.cons.injEq, Token.Kind.keyword.injEq, List.map_eq_nil_iff] at hks
      obtain ⟨rfl, rfl⟩ := hks
      rfl
    | explicit =>
      simp only [List.cons.injEq, Token.Kind.keyword.injEq, List.map_eq_nil_iff] at hks
      obtain ⟨rfl, rfl⟩ := hks
      rfl
    | unlabeled =>
      simp only [List.cons.injEq, Token.Kind.keyword.injEq, List.map_eq_nil_iff] at hks
      obtain ⟨rfl, rfl⟩ := hks
      rfl
    | text field value =>
      simp only [List.cons.injEq, Token.Kind.keyword.injEq, List.map_eq_cons_iff,
        List.map_eq_nil_iff] at hks
      obtain ⟨rfl, colon, _, rfl, hcolon, text, _, rfl, htext, rfl⟩ := hks
      exact bind_eq_ok.mpr ⟨value, ⟨tokens, rest, depth, groups⟩,
        fieldText_eq_ok.mpr ⟨colon, text, rest, rfl, hcolon, htext, rfl⟩, rfl⟩
    | date field op hliteral =>
      simp only [List.cons.injEq, Token.Kind.keyword.injEq, List.map_eq_cons_iff,
        List.map_eq_nil_iff] at hks
      obtain ⟨rfl, t, _, rfl, hkind, t', _, rfl, hkind', rfl⟩ := hks
      have hop : comparison ⟨tokens, t :: t' :: rest, depth, groups⟩
          = .ok op ⟨tokens, t' :: rest, depth, groups⟩ :=
        comparison_eq_ok.mpr ⟨t, t' :: rest, rfl, hkind, rfl⟩
      have hspec : dateSpec ⟨tokens, t' :: rest, depth, groups⟩
          = .ok _ ⟨tokens, rest, depth, groups⟩ :=
        dateSpec_eq_ok.mpr ⟨t', rest, _, rfl, hkind', hliteral, rfl⟩
      exact bind_eq_ok.mpr ⟨op, _, hop, bind_eq_ok.mpr ⟨_, _, hspec, rfl⟩⟩

end TrackCriteria.Parser
