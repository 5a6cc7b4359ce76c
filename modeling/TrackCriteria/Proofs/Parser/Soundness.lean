import TrackCriteria.Proofs.Parser.Atom

/-!
# Soundness of the parser

What a parser passes when it succeeds derives its answer (`operand_reads`, `disjunction_reads`), and
operands are nested in the derivation at most as deep as there were levels left. Nothing else about
the parser has changed: operands that were entered have been left, and groups have been closed.
-/

namespace TrackCriteria

/-- A rule for a chain: its items are joined to the left with an operator between each two. -/
structure IsChain (rule item : Rule) (op : Token.Kind) (join : Criteria → Criteria → Criteria) :
    Prop where
  single : ∀ {d ks e}, Derives item d ks e → Derives rule d ks e
  link : ∀ {d d' ks ks' left right}, Derives rule d ks left → Derives item d' ks' right →
    Derives rule (max d d') (ks ++ op :: ks') (join left right)

theorem isChain_conjunction : IsChain .conjunction .operand .and .and :=
  ⟨.conjunction, .and⟩

theorem isChain_disjunction : IsChain .disjunction .conjunction .or .or :=
  ⟨.disjunction, .or⟩

namespace Parser

/-- A step reads by a rule: what it passes when it succeeds derives its answer, with operands nested
at most `n` deep, and nothing else changes. -/
def Reads (rule : Rule) (n : Nat) (m : Step Criteria) : Prop :=
  ∀ p e q, m p = .ok e q → ∃ ts rest d, p.rest = ts ++ rest ∧ q = { p with rest := rest } ∧
    d ≤ n ∧ Derives rule d (ts.map (·.kind)) e

/-! ### Chains -/

variable {rule item : Rule} {op : Token.Kind} {join : Criteria → Criteria → Criteria}
  {m : Step Criteria} {n : Nat}

theorem links_reads (hchain : IsChain rule item op join) (hm : Reads item n m) :
    ∀ (bound : Nat) (left : Criteria) (ks : List Token.Kind) (d : Nat) (p : Parser) (e : Criteria)
      (q : Parser), Derives rule d ks left → d ≤ n → links op join m bound left p = .ok e q →
      ∃ ts rest d', p.rest = ts ++ rest ∧ q = { p with rest := rest } ∧ d' ≤ n ∧
        Derives rule d' (ks ++ ts.map (·.kind)) e := by
  intro bound
  induction bound with
  | zero =>
    intro left ks d p e q hleft hd h
    cases h
    refine ⟨[], p.rest, d, rfl, rfl, hd, ?_⟩
    rw [List.map_nil, List.append_nil]
    exact hleft
  | succ bound ih =>
    intro left ks d p e q hleft hd h
    obtain ⟨tokens, rest, depth, groups⟩ := p
    rcases head_eq_or_ne op rest with ⟨t, rest, rfl, hkind⟩ | hne
    · -- What has been read grows by a link, and the rest of the chain is read after it.
      rw [links_cons hkind, bind_eq_ok] at h
      obtain ⟨right, p', hright, hlinks⟩ := h
      obtain ⟨ts, rest', d', hrest, rfl, hd', hderives⟩ := hm _ _ _ hright
      obtain ⟨ts', rest'', d'', hrest', rfl, hd'', hderives'⟩ :=
        ih _ _ _ _ _ _ (hchain.link hleft hderives) (Nat.max_le.mpr ⟨hd, hd'⟩) hlinks
      dsimp only at hrest hrest'
      refine ⟨t :: (ts ++ ts'), rest'', d'', ?_, rfl, hd'', ?_⟩
      · show t :: rest = _
        rw [hrest, hrest', List.cons_append, List.append_assoc]
      · rw [List.map_cons, List.map_append, hkind]
        rwa [List.append_assoc, List.cons_append] at hderives'
    · rw [links_of_ne hne] at h
      cases h
      refine ⟨[], rest, d, rfl, rfl, hd, ?_⟩
      rw [List.map_nil, List.append_nil]
      exact hleft

theorem chain_reads (hchain : IsChain rule item op join) (hm : Reads item n m) :
    Reads rule n (chain op join m) := by
  intro p e q h
  obtain ⟨left, p', hleft, hlinks⟩ := bind_eq_ok.mp h
  obtain ⟨ts, rest, d, hrest, rfl, hd, hderives⟩ := hm _ _ _ hleft
  obtain ⟨ts', rest', d', hrest', rfl, hd', hderives'⟩ :=
    links_reads hchain hm _ _ _ _ _ _ _ (hchain.single hderives) hd hlinks
  refine ⟨ts ++ ts', rest', d', ?_, rfl, hd', ?_⟩
  · rw [hrest, show rest = ts' ++ rest' from hrest', List.append_assoc]
  · rwa [List.map_append]

theorem disjunction_reads (hm : Reads .operand n m) : Reads .disjunction n (disjunction m) :=
  chain_reads isChain_disjunction (chain_reads isChain_conjunction hm)

/-! ### Groups and operands -/

theorem primary_reads (hm : Reads .disjunction n m) : Reads .primary n (primary m) := by
  intro p e q h
  obtain ⟨t, rest, hrest, ⟨hkind, hgroup⟩ | ⟨k, a, hkind, rfl, htest⟩⟩ := primary_eq_ok h
  · -- The count of groups is back where it was once the parenthesis is closed.
    obtain ⟨p', close, rest', hinner, hrest', hclose, rfl⟩ := group_eq_ok.mp hgroup
    obtain ⟨ts, _, d, hts, rfl, hd, hderives⟩ := hm _ _ _ hinner
    dsimp only at hts hrest'
    refine ⟨t :: (ts ++ [close]), rest', d, ?_, rfl, hd, ?_⟩
    · rw [hrest, hts, hrest', List.cons_append, List.append_assoc, List.singleton_append]
    · rw [List.map_cons, List.map_append, List.map_singleton, hkind, hclose]
      exact .group hderives
  · obtain ⟨ts, rest', hts, rfl, hspells⟩ := test_eq_ok.mp htest
    refine ⟨t :: ts, rest', 0, ?_, rfl, Nat.zero_le _, ?_⟩
    · rw [hrest, show rest = ts ++ rest' from hts, List.cons_append]
    · rw [List.map_cons, hkind]
      exact .test hspells

/-- An operand with `n` levels left is read with operands nested at most `n` deep. -/
theorem operand_reads : ∀ n : Nat, Reads .operand n (operand n) := by
  intro n
  induction n with
  | zero =>
    -- With no level left an operand is never read.
    intro p e q h
    obtain ⟨span, herror⟩ := operand_zero p
    rw [herror] at h
    cases h
  | succ n ih =>
    intro p e q h
    obtain ⟨tokens, rest, depth, groups⟩ := p
    rcases head_eq_or_ne .not rest with ⟨t, rest, rfl, hkind⟩ | hne
    · rw [operand_not hkind, bind_eq_ok] at h
      obtain ⟨e', p', hoperand, hleave⟩ := h
      obtain ⟨ts, rest', d, hts, rfl, hd, hderives⟩ := ih _ _ _ hoperand
      cases hleave
      refine ⟨t :: ts, rest', d + 1, ?_, rfl, Nat.succ_le_succ hd, ?_⟩
      · exact congrArg (t :: ·) hts
      · rw [List.map_cons, hkind]
        exact .not hderives
    · rw [operand_of_ne hne, bind_eq_ok] at h
      obtain ⟨e', p', hprimary, hleave⟩ := h
      obtain ⟨ts, rest', d, hts, rfl, hd, hderives⟩ :=
        primary_reads (disjunction_reads ih) _ _ _ hprimary
      cases hleave
      exact ⟨ts, rest', d + 1, hts, rfl, Nat.succ_le_succ hd, .operand hderives⟩

end Parser

end TrackCriteria
