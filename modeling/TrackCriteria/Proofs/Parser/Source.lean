import TrackCriteria.Proofs.Parser.Completeness
import TrackCriteria.Proofs.Token.Scan

/-!
# What sources spell

A source is tokenized iff all tokens of its scan are legal (`tokenize_eq_ok`). The tokens of a
derivation are, so what is known of a parser of tokens carries over to sources: a source is read as
the criteria that the kinds of its tokens derive (`parse_eq_ok`).
-/

namespace TrackCriteria

/-! ### Tokenizing -/

/-- Whether tokens of a kind are part of the language. -/
def Token.Kind.IsLegal (kind : Token.Kind) : Prop :=
  kind ≠ .unterminatedString ∧ ∀ c, kind ≠ .illegal c

theorem Token.check_eq_ok {t t' : Token} : t.check = .ok t' ↔ t = t' ∧ t.kind.IsLegal := by
  obtain ⟨kind, span⟩ := t
  unfold Token.check Token.Kind.IsLegal
  constructor
  · intro h
    cases kind <;> cases h <;> exact ⟨rfl, by rintro ⟨⟩, by rintro c ⟨⟩⟩
  · rintro ⟨rfl, hstring, hillegal⟩
    cases kind with
    | unterminatedString => exact absurd rfl hstring
    | illegal c => exact absurd rfl (hillegal c)
    | _ => rfl

theorem mapM_check_eq_ok {ts ts' : List Token} :
    ts.mapM Token.check = .ok ts' ↔ ts = ts' ∧ ∀ t ∈ ts, t.kind.IsLegal := by
  induction ts generalizing ts' with
  | nil =>
    rw [List.mapM_nil]
    constructor
    · rintro ⟨⟩
      exact ⟨rfl, by rintro t ⟨⟩⟩
    · rintro ⟨rfl, -⟩
      rfl
  | cons t ts ih =>
    rw [List.mapM_cons, List.forall_mem_cons]
    constructor
    · intro h
      -- The whole succeeds only if the first token and all others pass the check.
      cases hcheck : t.check with
      | error err =>
        rw [hcheck] at h
        cases h
      | ok t' =>
        cases hrest : ts.mapM Token.check with
        | error err =>
          rw [hcheck, hrest] at h
          cases h
        | ok ts' =>
          obtain ⟨rfl, ht⟩ := Token.check_eq_ok.mp hcheck
          obtain ⟨rfl, hts⟩ := ih.mp hrest
          rw [hcheck, hrest] at h
          cases h
          exact ⟨rfl, ht, hts⟩
    · rintro ⟨rfl, ht, hts⟩
      rw [Token.check_eq_ok.mpr ⟨rfl, ht⟩, ih.mpr ⟨rfl, hts⟩]
      rfl

/-- A source is tokenized iff all its tokens are part of the language. -/
theorem tokenize_eq_ok {source : String} {tokens : List Token} :
    tokenize source = .ok tokens ↔
      Token.scan source = tokens ∧ ∀ k ∈ Token.kinds source.toList, k.IsLegal := by
  rw [tokenize, mapM_check_eq_ok, Token.kinds, List.forall_mem_map]
  rfl

/-! ### Legal tokens in derivations -/

theorem Spells.isLegal {ks : List Token.Kind} {a : Atom} (h : Spells ks a) :
    ∀ k ∈ ks, k.IsLegal := by
  cases h <;>
    simp [Token.Kind.IsLegal]

theorem Derives.isLegal {rule : Rule} {d : Nat} {ks : List Token.Kind} {e : Criteria}
    (h : Derives rule d ks e) : ∀ k ∈ ks, k.IsLegal := by
  have hcons : ∀ {k : Token.Kind} {ks : List Token.Kind}, k.IsLegal → (∀ k ∈ ks, k.IsLegal) →
      ∀ k' ∈ k :: ks, k'.IsLegal := fun hk hks => List.forall_mem_cons.mpr ⟨hk, hks⟩
  -- Operators and parentheses are legal, so it depends on the tests.
  induction h with
  | disjunction _ ih => exact ih
  | or _ _ ihl ihr =>
    exact List.forall_mem_append.mpr ⟨ihl, hcons ⟨by rintro ⟨⟩, by rintro c ⟨⟩⟩ ihr⟩
  | conjunction _ ih => exact ih
  | and _ _ ihl ihr =>
    exact List.forall_mem_append.mpr ⟨ihl, hcons ⟨by rintro ⟨⟩, by rintro c ⟨⟩⟩ ihr⟩
  | operand _ ih => exact ih
  | not _ ih => exact hcons ⟨by rintro ⟨⟩, by rintro c ⟨⟩⟩ ih
  | group _ ih =>
    refine hcons ⟨by rintro ⟨⟩, by rintro c ⟨⟩⟩ (List.forall_mem_append.mpr ⟨ih, ?_⟩)
    exact hcons ⟨by rintro ⟨⟩, by rintro c ⟨⟩⟩ (List.forall_mem_nil _)
  | test h => exact h.isLegal

/-! ### Parsing a source -/

namespace Criteria

theorem parse_of_tokenize {source : String} {tokens : List Token}
    (h : tokenize source = .ok tokens) :
    Criteria.parse source = (Parser.ofTokens tokens).parse.1 := by
  rw [Criteria.parse, h]
  rfl

/-- A source whose tokens derive criteria is read as these, unless operands are nested too deep. -/
theorem parse_of_derives {source : String} {d : Nat} {e : Criteria}
    (h : Derives .disjunction d (Token.kinds source.toList) e) :
    (d ≤ maxDepth → Criteria.parse source = .ok e) ∧
      (maxDepth < d → ∃ span, Criteria.parse source = .error (.nestingTooDeep span)) := by
  rw [parse_of_tokenize (tokenize_eq_ok.mpr ⟨rfl, h.isLegal⟩)]
  exact Parser.parse_of_derives h

/-- A source is read as the criteria that its tokens derive. -/
theorem parse_eq_ok {source : String} {e : Criteria} :
    Criteria.parse source = .ok e ↔
      ∃ d ≤ maxDepth, Derives .disjunction d (Token.kinds source.toList) e := by
  constructor
  · intro h
    cases htokens : tokenize source with
    | error err =>
      rw [Criteria.parse, htokens] at h
      cases h
    | ok tokens =>
      rw [parse_of_tokenize htokens] at h
      obtain ⟨rfl, -⟩ := tokenize_eq_ok.mp htokens
      exact Parser.derives_of_parse h
  · rintro ⟨d, hd, h⟩
    exact (parse_of_derives h).1 hd

end Criteria

end TrackCriteria
