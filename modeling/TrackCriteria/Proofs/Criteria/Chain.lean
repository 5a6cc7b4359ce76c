import TrackCriteria.Proofs.Criteria.Canonical

/-!
# Entering canonical texts again

What was read from a source can be read again from its canonical text iff the parentheses of that
text are not nested too deep. They may be, since the text shows each link of a chain by a pair of
parentheses: tests joined by `&&` are read however many they are (`parse_chainText`), while each of
them but the first two makes the canonical text one level deeper (`nesting_chain_cons`). So a chain
can be entered again iff it has at most `maxDepth + 1` tests (`parse_canonical_chain`).
-/

namespace TrackCriteria.Criteria

open Token (Scans)

/-! ### Chains of tests -/

/-- Tests joined by `&&`, as they are written without parentheses. -/
def chainText (a : Atom) (as : List Atom) : String :=
  as.foldl (fun text b => text ++ " && " ++ b.canonical) a.canonical

/-- Tests joined by `&&`, folded to the left. -/
def chain (a : Atom) (as : List Atom) : Criteria :=
  as.foldl (fun e b => .and e (.atom b)) (.atom a)

variable {a : Atom} {as : List Atom}

/-- A text that is a conjunction remains one when tests are joined to it, and operands are nested as
deep as before. -/
theorem derives_foldl {text : String} {ks : List Token.Kind} {e : Criteria}
    (has : ∀ b ∈ as, b.IsExpressible) (hscan : Scans text ks) (h : Derives .conjunction 1 ks e) :
    ∃ ks', Scans (as.foldl (fun text b => text ++ " && " ++ b.canonical) text) ks' ∧
      Derives .conjunction 1 ks' (as.foldl (fun e b => .and e (.atom b)) e) := by
  induction as generalizing text ks e with
  | nil => exact ⟨ks, hscan, h⟩
  | cons b bs ih =>
    obtain ⟨hb, hbs⟩ := List.forall_mem_cons.mp has
    -- Both sides of the link need one level, and so does the longer chain.
    have hlink := h.and (.operand (.test (Atom.spells_spelling hb)))
    exact ih hbs (hscan.and (Atom.scans_canonical hb)) hlink

/-- A chain is read however long it is. -/
theorem parse_chainText (h : ∀ b ∈ a :: as, b.IsExpressible) :
    Criteria.parse (chainText a as) = .ok (chain a as) := by
  obtain ⟨ha, has⟩ := List.forall_mem_cons.mp h
  obtain ⟨ks, hscan, hderives⟩ := derives_foldl has (Atom.scans_canonical ha)
    (.conjunction (.operand (.test (Atom.spells_spelling ha))))
  refine (parse_of_derives (d := 1) (.disjunction ?_)).1 (by decide)
  rw [chainText, hscan.kinds_eq]
  exact hderives

theorem isExpressible_chain (h : ∀ b ∈ a :: as, b.IsExpressible) : (chain a as).IsExpressible :=
  isExpressible_of_parse (parse_chainText h)

/-- Each test that is joined to a compound formula makes its text one level deeper. -/
theorem nesting_foldl {e : Criteria} (he : e.isCompound = true) (hpos : 1 ≤ nesting e)
    (as : List Atom) :
    nesting (as.foldl (fun e b => .and e (.atom b)) e) = nesting e + as.length := by
  induction as generalizing e with
  | nil => rfl
  | cons b bs ih =>
    have hlink : nesting (.and e (.atom b)) = nesting e + 1 := by
      rw [nesting, deepen, if_pos he]
      show max (1 + nesting e) 1 = nesting e + 1
      omega
    rw [List.foldl_cons, ih rfl (by omega), hlink, List.length_cons]
    omega

theorem nesting_chain_cons (a b : Atom) (bs : List Atom) :
    nesting (chain a (b :: bs)) = bs.length + 1 := by
  have hpair : nesting (.and (.atom a) (.atom b)) = 1 := rfl
  rw [chain, List.foldl_cons, nesting_foldl rfl (Nat.le_of_eq hpair.symm), hpair, Nat.add_comm]

theorem nesting_chain_le_iff (a : Atom) (as : List Atom) :
    nesting (chain a as) ≤ maxDepth ↔ as.length ≤ maxDepth := by
  cases as with
  | nil =>
    show 1 ≤ maxDepth ↔ 0 ≤ maxDepth
    decide
  | cons b bs => rw [nesting_chain_cons, List.length_cons]

/-- A chain can be read from its canonical text iff it is short enough. -/
theorem parse_canonical_chain (h : ∀ b ∈ a :: as, b.IsExpressible) :
    Criteria.parse (chain a as).canonical = .ok (chain a as) ↔ as.length ≤ maxDepth := by
  rw [← nesting_chain_le_iff a as]
  exact parse_canonical_eq_ok (isExpressible_chain h)

/-! ### Whatever was read -/

/-- **What was read can be entered again in its canonical form iff that is not nested too deep.** If
it is, that is the error. -/
theorem parse_canonical_of_parse {source : String} {e : Criteria}
    (h : Criteria.parse source = .ok e) :
    (Criteria.parse e.canonical = .ok e ↔ e.nesting ≤ maxDepth) ∧
      (maxDepth < e.nesting →
        ∃ span, Criteria.parse e.canonical = .error (.nestingTooDeep span)) :=
  ⟨parse_canonical_eq_ok (isExpressible_of_parse h), (parse_canonical (isExpressible_of_parse h)).2⟩

theorem isExpressible_of_mem_replicate (n : Nat) :
    ∀ b ∈ Atom.clean :: List.replicate n .clean, b.IsExpressible := by
  intro b hb
  rw [← List.replicate_succ] at hb
  rw [List.eq_of_mem_replicate hb]
  exact trivial

/-- A chain of 258 tests is one too long. -/
theorem parse_canonical_of_parse_chain :
    ∃ (source : String) (e : Criteria), source = chainText .clean (List.replicate 257 .clean) ∧
      Criteria.parse source = .ok e ∧ maxDepth < e.nesting ∧
      ∃ span, Criteria.parse e.canonical = .error (.nestingTooDeep span) := by
  have hparse := parse_chainText (isExpressible_of_mem_replicate 257)
  have hdeep : maxDepth < nesting (chain .clean (List.replicate 257 .clean)) := by
    rw [← Nat.not_le, nesting_chain_le_iff, List.length_replicate]
    decide
  exact ⟨_, _, rfl, hparse, hdeep, (parse_canonical_of_parse hparse).2 hdeep⟩

/-- Not everything that was read can be entered again: a chain of 258 tests can not. -/
theorem not_forall_parse_canonical :
    ¬∀ (source : String) (e : Criteria), Criteria.parse source = .ok e →
      Criteria.parse e.canonical = .ok e := by
  intro h
  have hexpressible := isExpressible_of_mem_replicate 257
  have hshort := (parse_canonical_chain hexpressible).mp (h _ _ (parse_chainText hexpressible))
  rw [List.length_replicate] at hshort
  exact absurd hshort (by decide)

end TrackCriteria.Criteria
