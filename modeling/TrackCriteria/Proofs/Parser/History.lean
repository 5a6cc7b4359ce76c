import TrackCriteria.Proofs.Parser.Break
import TrackCriteria.Proofs.Parser.Level

/-!
# A parser that is asked again

A parser may be asked for an expression any number of times, also after it has failed. A call passes
tokens and leaves operands and groups on the books, never more groups than operands (`Advances`,
`parse_advances`), and what is on the books after any history of calls is bounded by that
(`IsSound`, `isSound_of_reaches`). A parser that has found the nesting too deep once has no level
left, and finds nothing else any more (`IsExhausted`).
-/

namespace TrackCriteria.Parser

variable {n : Nat} {p q : Parser} {err : SyntaxError} {tokens : List Token}

/-- How many tokens have been passed. -/
def position (p : Parser) : Nat :=
  p.tokens.length - p.rest.length

/-- Whether a parser can be left in a state when it is asked for expressions any number of times. -/
inductive Reaches (p : Parser) : Parser → Prop where
  | refl : Reaches p p
  | call {q : Parser} (h : Reaches p q) : Reaches p q.parse.2

/-! ### What is left on the books -/

/-- What can become of a parser with `n` levels left: tokens are passed, and operands and groups are
entered that are not left again. Each group is entered by an operand with a level to spare. -/
structure Advances (n : Nat) (p q : Parser) : Prop where
  tokens_eq : q.tokens = p.tokens
  rest_suffix : q.rest <:+ p.rest
  depth_le : p.depth ≤ q.depth
  groups_le : p.groups ≤ q.groups
  groups_le_depth : q.groups + p.depth ≤ p.groups + q.depth
  groups_le_levels : q.groups ≤ p.groups + n

theorem Advances.of_rest {rest : List Token} (h : rest <:+ p.rest) :
    Advances n p { p with rest := rest } :=
  ⟨rfl, h, Nat.le_refl _, Nat.le_refl _, Nat.le_refl _, Nat.le_add_right _ _⟩

/-- An operand is entered, and perhaps a group with it. -/
theorem Advances.of_enter {groups : Nat} {rest : List Token} (hrest : rest <:+ p.rest)
    (hle : p.groups ≤ groups) (hle' : groups ≤ p.groups + 1) :
    Advances (n + 1) p ⟨p.tokens, rest, p.depth + 1, groups⟩ := by
  refine ⟨rfl, hrest, Nat.le_succ _, hle, ?_, ?_⟩
  · dsimp only
    omega
  · dsimp only
    omega

/-- What is inside of an operand has a level less. -/
theorem Advances.enter {groups : Nat} {rest : List Token} (hrest : rest <:+ p.rest)
    (hle : p.groups ≤ groups) (hle' : groups ≤ p.groups + 1)
    (h : Advances n ⟨p.tokens, rest, p.depth + 1, groups⟩ q) : Advances (n + 1) p q := by
  obtain ⟨htokens, hsuffix, hdepth, hgroups, hbooks, hlevels⟩ := h
  dsimp only at htokens hsuffix hdepth hgroups hbooks hlevels
  refine ⟨htokens, hsuffix.trans hrest, ?_, ?_, ?_, ?_⟩
  all_goals omega

theorem BreaksOff.advances (h : BreaksOff n p err q) : Advances n p q := by
  -- However deep the break is, each operand on the way has been entered and not left.
  induction h with
  | tooDeep =>
    exact ⟨rfl, List.suffix_refl _, Nat.le_succ _, Nat.le_refl _,
      Nat.add_le_add_left (Nat.le_succ _) _, Nat.le_refl _⟩
  | negated _ _ ih =>
    exact ih.enter (p := ⟨_, _, _, _⟩) (List.suffix_cons _ _) (Nat.le_refl _) (Nat.le_succ _)
  | inside _ _ _ ih =>
    refine ih.enter (p := ⟨_, _, _, _⟩) ?_ (Nat.le_succ _) (Nat.le_refl _)
    exact (List.suffix_append _ _).trans (List.suffix_cons _ _)
  | unclosed =>
    exact .of_enter (p := ⟨_, _, _, _⟩) List.nil_suffix (Nat.le_succ _) (Nat.le_refl _)
  | interrupted =>
    refine .of_enter (p := ⟨_, _, _, _⟩) ?_ (Nat.le_succ _) (Nat.le_refl _)
    exact (List.suffix_append _ _).trans (List.suffix_cons _ _)
  | closing =>
    exact .of_enter (p := ⟨_, _, _, _⟩) (List.suffix_cons _ _) (Nat.le_refl _) (Nat.le_succ _)
  | plain hsuffix =>
    exact .of_enter (p := ⟨_, _, _, _⟩) hsuffix (Nat.le_refl _) (Nat.le_succ _)

/-- An operand that breaks off is not left. -/
theorem BreaksOff.depth_lt (h : BreaksOff n p err q) : p.depth < q.depth := by
  induction h with
  | negated _ _ ih => exact Nat.lt_of_succ_lt ih
  | inside _ _ _ ih => exact Nat.lt_of_succ_lt ih
  | _ => exact Nat.lt_succ_self _

/-- Where the nesting is too deep, an operand has been entered on each level and one beyond. -/
theorem BreaksOff.depth_eq {span : Span} (h : BreaksOff n p err q)
    (herr : err = .nestingTooDeep span) : q.depth = p.depth + n + 1 := by
  -- An operand on the way adds to the depth what it takes from the levels that are left.
  induction h with
  | tooDeep => rfl
  | negated _ _ ih =>
    have hdepth := ih herr
    dsimp only at hdepth ⊢
    omega
  | inside _ _ _ ih =>
    have hdepth := ih herr
    dsimp only at hdepth ⊢
    omega
  | closing => split at herr <;> cases herr
  | plain _ hplain =>
    rw [herr] at hplain
    exact hplain.elim
  | _ => cases herr

/-! ### Calls -/

theorem parse_advances (p : Parser) : Advances (maxDepth - p.depth) p p.parse.2 := by
  cases hparse : p.parse.1 with
  | ok e =>
    rw [parse_ok hparse]
    exact .of_rest List.nil_suffix
  | error err =>
    rcases parse_error hparse with ⟨-, rest, hsuffix, heq⟩ | ⟨-, front, rest, hrest, -, hoff⟩
    · rw [heq]
      exact .of_rest hsuffix
    · -- Complete operands have been passed and left again before the one that breaks off.
      obtain ⟨htokens, hsuffix, hdepth, hgroups, hbooks, hlevels⟩ := hoff.advances
      refine ⟨htokens, hsuffix.trans ?_, hdepth, hgroups, hbooks, hlevels⟩
      rw [hrest]
      exact List.suffix_append _ _

/-- What holds of a parser of some tokens at any time. -/
structure IsSound (tokens : List Token) (p : Parser) : Prop where
  tokens_eq : p.tokens = tokens
  rest_suffix : p.rest <:+ tokens
  groups_le_depth : p.groups ≤ p.depth
  groups_le_maxDepth : p.groups ≤ maxDepth

theorem IsSound.parse (h : IsSound tokens p) : IsSound tokens p.parse.2 := by
  obtain ⟨htokens, hsuffix, hdepth, hmax⟩ := h
  obtain ⟨htokens', hsuffix', -, -, hbooks, hlevels⟩ := parse_advances p
  refine ⟨htokens'.trans htokens, hsuffix'.trans hsuffix, ?_, ?_⟩
  · omega
  · -- There are levels left only as long as the groups are below the limit, like the operands.
    omega

theorem isSound_of_reaches (h : Reaches (ofTokens tokens) p) : IsSound tokens p := by
  induction h with
  | refl => exact ⟨rfl, List.suffix_refl _, Nat.le_refl _, Nat.zero_le _⟩
  | call _ ih => exact ih.parse

/-- The position says which tokens are left. -/
theorem IsSound.rest_eq_drop (h : IsSound tokens p) : p.rest = tokens.drop p.position := by
  unfold position
  rw [h.tokens_eq]
  exact List.suffix_iff_eq_drop.mp h.rest_suffix

theorem Advances.position_le (h : Advances n p q) : p.position ≤ q.position := by
  have hlength := h.rest_suffix.length_le
  unfold position
  rw [h.tokens_eq]
  omega

/-! ### When no level is left -/

/-- Whether a parser has tokens, but no level of nesting for an operand. -/
structure IsExhausted (p : Parser) : Prop where
  tokens_ne : p.tokens ≠ []
  maxDepth_le : maxDepth ≤ p.depth

/-- Without a level left, each call enters one more operand and fails there. -/
theorem IsExhausted.parse (h : IsExhausted p) :
    ∃ span, p.parse = (.error (.nestingTooDeep span), { p with depth := p.depth + 1 }) := by
  have hlevels : maxDepth - p.depth = 0 := Nat.sub_eq_zero_of_le h.maxDepth_le
  obtain ⟨span, hoperand⟩ := operand_zero p
  have hdisj : disjunction (operand (maxDepth - p.depth)) p =
      .error (.nestingTooDeep span) { p with depth := p.depth + 1 } := by
    rw [hlevels]
    exact chain_error (chain_error hoperand)
  refine ⟨span, ?_⟩
  rw [Parser.parse, expression_error h.tokens_ne hdisj]

theorem isExhausted_of_nestingTooDeep {span : Span}
    (h : p.parse.1 = .error (.nestingTooDeep span)) : IsExhausted p.parse.2 := by
  constructor
  · rw [(parse_advances p).tokens_eq]
    intro hnil
    obtain ⟨tokens, rest, depth, groups⟩ := p
    obtain rfl : tokens = [] := hnil
    cases h
  · rcases parse_error h with ⟨⟨⟩, -⟩ | ⟨-, front, rest, -, -, hoff⟩
    have hdepth := hoff.depth_eq rfl
    dsimp only at hdepth
    omega

theorem IsExhausted.of_reaches (h : IsExhausted p) (hreaches : Reaches p q) : IsExhausted q := by
  induction hreaches with
  | refl => exact h
  | call _ ih =>
    obtain ⟨span, hparse⟩ := ih.parse
    rw [hparse]
    exact ⟨ih.tokens_ne, Nat.le_succ_of_le ih.maxDepth_le⟩

/-! ### Histories of calls -/

/-- **What a parser is left with after any history of calls.** It is never inside of more groups
than operands, nor of more than `maxDepth`, and its position lies in the tokens. A call that
succeeds changes only the position, which is at the end. A call that fails takes nothing back:
outside of all operands it leaves nothing on the books, and otherwise at least an operand. When the
nesting has been too deep once, it is so for all later calls, and they pass no token. -/
theorem parse_of_reaches (h : Reaches (ofTokens tokens) p) :
    (p.groups ≤ p.depth ∧ p.groups ≤ maxDepth ∧ p.tokens = tokens ∧
      p.position ≤ tokens.length ∧ p.rest = tokens.drop p.position) ∧
    (∀ e, p.parse.1 = .ok e → p.parse.2.depth = p.depth ∧ p.parse.2.groups = p.groups ∧
      p.parse.2.position = tokens.length) ∧
    (∀ err, p.parse.1 = .error err → p.position ≤ p.parse.2.position ∧
      p.depth ≤ p.parse.2.depth ∧ p.groups ≤ p.parse.2.groups ∧
      (IsOutside p err → p.parse.2.depth = p.depth ∧ p.parse.2.groups = p.groups) ∧
      (¬IsOutside p err → p.depth < p.parse.2.depth)) ∧
    ∀ span, p.parse.1 = .error (.nestingTooDeep span) → ∀ q, Reaches p.parse.2 q →
      (∃ span', q.parse.1 = .error (.nestingTooDeep span')) ∧ q.parse.2.position = q.position := by
  have hsound := isSound_of_reaches h
  have hadvances := parse_advances p
  refine ⟨?_, ?_, ?_, ?_⟩
  · have hposition : p.position ≤ tokens.length := by
      unfold position
      rw [hsound.tokens_eq]
      exact Nat.sub_le _ _
    exact ⟨hsound.groups_le_depth, hsound.groups_le_maxDepth, hsound.tokens_eq, hposition,
      hsound.rest_eq_drop⟩
  · intro e hok
    rw [parse_ok hok]
    refine ⟨rfl, rfl, ?_⟩
    show p.tokens.length - 0 = tokens.length
    rw [hsound.tokens_eq, Nat.sub_zero]
  · intro err herror
    refine ⟨hadvances.position_le, hadvances.depth_le, hadvances.groups_le, ?_, ?_⟩
    · intro houtside
      rcases parse_error herror with ⟨-, rest, -, heq⟩ | ⟨hinside, -⟩
      · rw [heq]
        exact ⟨rfl, rfl⟩
      · exact absurd houtside hinside
    · intro hinside
      rcases parse_error herror with ⟨houtside, -⟩ | ⟨-, front, rest, -, -, hoff⟩
      · exact absurd houtside hinside
      · exact hoff.depth_lt
  · -- From here on there is no level left for an operand, whatever is called.
    intro span hdeep q hreaches
    obtain ⟨span', hparse⟩ :=
      ((isExhausted_of_nestingTooDeep hdeep).of_reaches hreaches).parse
    rw [hparse]
    exact ⟨⟨span', rfl⟩, rfl⟩

/-- After `(clean explicit` has failed at the second word, with the group still on the books, the
word is read by a second call. Behind 256 negations the nesting is too deep, also when the parser is
asked again. -/
theorem parse_of_reaches_again :
    (∃ p, Reaches (ofTokens [⟨.leftParen, ⟨0, 1⟩⟩, ⟨.keyword .clean, ⟨1, 6⟩⟩,
        ⟨.keyword .explicit, ⟨7, 15⟩⟩]) p ∧ p.depth = 1 ∧ p.groups = 1 ∧
      p.parse.1 = .ok (.atom .explicit) ∧ p.parse.2.depth = 1 ∧ p.parse.2.groups = 1 ∧
      p.parse.2.position = 3) ∧
    ∃ (tokens : List Token) (span : Span), tokens.map (·.kind) = negated 256 [.keyword .clean] ∧
      (ofTokens tokens).parse.1 = .error (.nestingTooDeep span) ∧
      ∃ span', (ofTokens tokens).parse.2.parse.1 = .error (.nestingTooDeep span') := by
  constructor
  · have hok : (ofTokens [⟨.leftParen, ⟨0, 1⟩⟩, ⟨.keyword .clean, ⟨1, 6⟩⟩,
        ⟨.keyword .explicit, ⟨7, 15⟩⟩]).parse.2.parse.1 = .ok (.atom .explicit) := by
      decide +kernel
    obtain ⟨hdepth, hgroups, hposition⟩ := (parse_of_reaches (.call .refl)).2.1 _ hok
    refine ⟨_, .call .refl, ?_, ?_, hok, hdepth.trans ?_, hgroups.trans ?_, hposition⟩
    all_goals decide +kernel
  · obtain ⟨tokens, hkinds⟩ := exists_map_kind_eq (negated 256 [.keyword .clean])
    obtain ⟨e, he⟩ := Spells.clean.derives_negated 256
    have hderives := Derives.disjunction (.conjunction he)
    rw [← hkinds] at hderives
    obtain ⟨span, hdeep⟩ := (parse_of_derives hderives).2 (by decide)
    obtain ⟨hagain, -⟩ := (parse_of_reaches .refl).2.2.2 span hdeep _ .refl
    exact ⟨tokens, span, hkinds, hdeep, hagain⟩

end TrackCriteria.Parser
