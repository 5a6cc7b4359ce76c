import TrackCriteria.Proofs.Parser.Completeness

/-!
# Levels of parentheses and negations

A point between two tokens lies inside of the parentheses that are open there and of the negations
whose operand has not ended. `deepest` is the largest number of these levels at any point. It is read
off the tokens alone, and in what the grammar derives it is one less than the nesting of operands,
since the innermost operand counts there as well (`Derives.deepest_eq`). So the parser has room for
`maxDepth - 1` levels and not for `maxDepth` (`parse_of_deepest`).
-/

namespace TrackCriteria

/-! ### The levels around a point -/

/-- What a point can lie inside of. -/
inductive Level where
  /-- A parenthesis that is open. -/
  | paren
  /-- A negation whose operand has not ended. -/
  | negation
deriving DecidableEq

namespace Level

/-- The levels where an operand has ended: the negations of this operand end with it. The innermost
level comes first. -/
def settle (levels : List Level) : List Level :=
  levels.dropWhile (· = .negation)

/-- The levels behind a token, given those in front of it. A quoted text or a date ends a test. -/
def after (levels : List Level) : Token.Kind → List Level
  | .leftParen => .paren :: levels
  | .rightParen => settle levels.tail
  | .not => .negation :: levels
  | .keyword .clean => settle levels
  | .keyword .explicit => settle levels
  | .keyword .unlabeled => settle levels
  | .string _ => settle levels
  | .value _ => settle levels
  | _ => levels

/-- The most levels at any point of the tokens, given those in front of the first one. -/
def deepest (levels : List Level) : List Token.Kind → Nat
  | [] => levels.length
  | k :: ks => max levels.length (deepest (after levels k) ks)

end Level

open Level (settle after deepest)

/-! ### Levels in derivations -/

/-- A test is inside of nothing but what it stands in, and it may be the operand of negations. -/
theorem Spells.deepest_append {ks : List Token.Kind} {a : Atom} (h : Spells ks a)
    (levels : List Level) (rest : List Token.Kind) :
    deepest levels (ks ++ rest) = max levels.length (deepest (settle levels) rest) := by
  cases h with
  | clean => rfl
  | explicit => rfl
  | unlabeled => rfl
  | text field value =>
    simp only [List.cons_append, List.nil_append, deepest, after]
    omega
  | date field op hliteral =>
    simp only [List.cons_append, List.nil_append, deepest, after]
    omega

/-- An operator of a chain changes no levels, so a link is as deep as the deeper one of its sides. -/
theorem Level.deepest_link {levels : List Level} {op : Token.Kind} {ks ks' rest : List Token.Kind}
    {m m' : Nat} (hop : after levels op = levels)
    (hleft : ∀ rest, deepest levels (ks ++ rest) = max (levels.length + m) (deepest levels rest))
    (hright : deepest levels (ks' ++ rest) = max (levels.length + m') (deepest levels rest)) :
    deepest levels (ks ++ op :: ks' ++ rest) =
      max (levels.length + max m m') (deepest levels rest) := by
  rw [List.append_assoc, List.cons_append, hleft, deepest, hop, hright]
  omega

/-- How many levels there are in what a rule derives. An operand is not inside of itself. -/
def Rule.levels : Rule → Nat → Nat
  | .primary, d => d
  | _, d => d - 1

theorem Derives.pos {rule : Rule} {d : Nat} {ks : List Token.Kind} {e : Criteria}
    (h : Derives rule d ks e) (hrule : rule ≠ .primary) : 0 < d := by
  induction h with
  | disjunction _ ih => exact ih (by rintro ⟨⟩)
  | or _ _ ihl _ => exact Nat.lt_of_lt_of_le (ihl (by rintro ⟨⟩)) (Nat.le_max_left _ _)
  | conjunction _ ih => exact ih (by rintro ⟨⟩)
  | and _ _ ihl _ => exact Nat.lt_of_lt_of_le (ihl (by rintro ⟨⟩)) (Nat.le_max_left _ _)
  | operand => exact Nat.succ_pos _
  | not => exact Nat.succ_pos _
  | group => exact absurd rfl hrule
  | test => exact absurd rfl hrule

/-- The levels of what a rule derives come on top of those that it stands in, and where it ends all
negations in front of it have ended. In front of a chain there are none, as it is no operand. -/
theorem Derives.deepest_append {rule : Rule} {d : Nat} {ks : List Token.Kind} {e : Criteria}
    (h : Derives rule d ks e) :
    ∀ (levels : List Level) (rest : List Token.Kind),
      (rule = .disjunction ∨ rule = .conjunction → settle levels = levels) →
      deepest levels (ks ++ rest) =
        max (levels.length + rule.levels d) (deepest (settle levels) rest) := by
  have hoperand : ∀ {levels : List Level}, Rule.operand = .disjunction ∨ Rule.operand = .conjunction →
      settle levels = levels := by
    rintro levels (⟨⟨⟩⟩ | ⟨⟨⟩⟩)
  -- By induction on the derivation, for all levels that are open in front of it. A chain starts
  -- where no negation is pending, since the operand of a negation is no chain; what follows an
  -- operand does so after the negations in front of it have ended.
  induction h with
  | disjunction _ ih =>
    intro levels rest hsettled
    exact ih levels rest fun _ => hsettled (.inl rfl)
  | @or d d' ks ks' left right _ _ ihl ihr =>
    -- Both sides start at the same levels, so the deeper one counts.
    intro levels rest hsettled
    have hlevels := hsettled (.inl rfl)
    have hmax : max d d' - 1 = max (d - 1) (d' - 1) := by omega
    have hl := fun rest => ihl levels rest hsettled
    have hr := ihr levels rest fun _ => hlevels
    simp only [hlevels, Rule.levels, hmax] at hl hr ⊢
    exact Level.deepest_link rfl hl hr
  | conjunction _ ih =>
    intro levels rest _
    exact ih levels rest hoperand
  | @and d d' ks ks' left right _ _ ihl ihr =>
    intro levels rest hsettled
    have hlevels := hsettled (.inr rfl)
    have hmax : max d d' - 1 = max (d - 1) (d' - 1) := by omega
    have hl := fun rest => ihl levels rest hsettled
    have hr := ihr levels rest hoperand
    simp only [hlevels, Rule.levels, hmax] at hl hr ⊢
    exact Level.deepest_link rfl hl hr
  | operand _ ih =>
    intro levels rest _
    exact ih levels rest (by rintro (⟨⟨⟩⟩ | ⟨⟨⟩⟩))
  | @not d ks e h ih =>
    intro levels rest _
    have hd := h.pos (by rintro ⟨⟩)
    -- This negation ends together with those in front of it.
    have hinner := ih (.negation :: levels) rest hoperand
    have hsettle : settle (.negation :: levels) = settle levels := rfl
    simp only [List.cons_append, deepest, after, hinner, hsettle, Rule.levels, List.length_cons]
    omega
  | @group d ks e h ih =>
    intro levels rest _
    have hd := h.pos (by rintro ⟨⟩)
    -- The parenthesis keeps the negations in front of it from ending inside.
    have hsettle : settle (.paren :: levels) = .paren :: levels := rfl
    have hinner := ih (.paren :: levels) (.rightParen :: rest) fun _ => hsettle
    rw [List.cons_append, List.append_assoc, List.singleton_append]
    simp only [deepest, after, hinner, hsettle, Rule.levels, List.length_cons, List.tail_cons]
    omega
  | test h =>
    intro levels rest _
    exact h.deepest_append levels rest

/-- Operands are nested one deeper than parentheses and negations. -/
theorem Derives.deepest_eq {d : Nat} {ks : List Token.Kind} {e : Criteria}
    (h : Derives .disjunction d ks e) : d = deepest [] ks + 1 := by
  have hd := h.pos (by rintro ⟨⟩)
  have hdeepest := h.deepest_append [] [] fun _ => rfl
  have hnil : deepest (settle []) [] = 0 := rfl
  rw [List.append_nil, hnil] at hdeepest
  simp only [hdeepest, Rule.levels, List.length_nil]
  omega

/-! ### Sentences with many levels -/

/-- Tokens in so many pairs of parentheses. -/
def parenthesized (n : Nat) (ks : List Token.Kind) : List Token.Kind :=
  List.replicate n .leftParen ++ (ks ++ List.replicate n .rightParen)

/-- Tokens behind so many negations. -/
def negated (n : Nat) (ks : List Token.Kind) : List Token.Kind :=
  List.replicate n .not ++ ks

theorem Spells.derives_parenthesized {ks : List Token.Kind} {a : Atom} (h : Spells ks a) (n : Nat) :
    Derives .primary n (parenthesized n ks) (.atom a) := by
  induction n with
  | zero =>
    have hnone : parenthesized 0 ks = ks := List.append_nil ks
    rw [hnone]
    exact .test h
  -- The last pair goes around what has been derived.
  | succ n ih =>
    have hpair : parenthesized (n + 1) ks = .leftParen :: (parenthesized n ks ++ [.rightParen]) := by
      unfold parenthesized
      rw [List.replicate_succ, List.replicate_succ', List.cons_append, List.append_assoc,
        List.append_assoc]
    rw [hpair]
    exact .group (.disjunction (.conjunction (.operand ih)))

theorem Spells.derives_negated {ks : List Token.Kind} {a : Atom} (h : Spells ks a) (n : Nat) :
    ∃ e, Derives .operand (n + 1) (negated n ks) e := by
  induction n with
  | zero => exact ⟨.atom a, .operand (.test h)⟩
  | succ n ih =>
    obtain ⟨e, he⟩ := ih
    exact ⟨.not e, .not he⟩

namespace Parser

/-- A sentence is read iff operands are not nested too deep in it. -/
theorem exists_parse_eq_ok_iff {tokens : List Token} {d : Nat} {e : Criteria}
    (h : Derives .disjunction d (tokens.map (·.kind)) e) :
    (∃ e', (ofTokens tokens).parse.1 = .ok e') ↔ d ≤ maxDepth := by
  constructor
  · rintro ⟨e', hparse⟩
    by_contra hdeep
    obtain ⟨span, herror⟩ := (parse_of_derives h).2 (Nat.not_le.mp hdeep)
    rw [hparse] at herror
    cases herror
  · intro hd
    exact ⟨e, (parse_of_derives h).1 hd⟩

/-- **One level less than `maxDepth` is left for parentheses and negations.** A sentence is read as
what it derives iff at all its points there are fewer than `maxDepth` of them, and otherwise it is
nested too deep; so a test may stand in at most `maxDepth - 1` pairs of parentheses, or behind so
many negations. -/
theorem parse_of_deepest (tokens : List Token) :
    (∀ (d : Nat) (e : Criteria), Derives .disjunction d (tokens.map (·.kind)) e →
      ((ofTokens tokens).parse.1 = .ok e ↔ deepest [] (tokens.map (·.kind)) < maxDepth) ∧
      (maxDepth ≤ deepest [] (tokens.map (·.kind)) →
        ∃ span, (ofTokens tokens).parse.1 = .error (.nestingTooDeep span))) ∧
    ∀ (ks : List Token.Kind) (a : Atom) (n : Nat), Spells ks a →
      tokens.map (·.kind) = parenthesized n ks ∨ tokens.map (·.kind) = negated n ks →
        ((∃ e, (ofTokens tokens).parse.1 = .ok e) ↔ n < maxDepth) := by
  constructor
  · -- A derivation is one deeper than the deepest of its points.
    intro d e h
    have hd := h.deepest_eq
    refine ⟨⟨fun hparse => ?_, fun hlt => (parse_of_derives h).1 (by omega)⟩, fun hle => ?_⟩
    · have hle := (exists_parse_eq_ok_iff h).mp ⟨e, hparse⟩
      omega
    · exact (parse_of_derives h).2 (by omega)
  · rintro ks a n h (hkinds | hkinds)
    · have hderives := Derives.disjunction (.conjunction (.operand (h.derives_parenthesized n)))
      rw [← hkinds] at hderives
      exact exists_parse_eq_ok_iff hderives
    · obtain ⟨e, he⟩ := h.derives_negated n
      have hderives := Derives.disjunction (.conjunction he)
      rw [← hkinds] at hderives
      exact exists_parse_eq_ok_iff hderives

/-- There is room for 255 pairs of parentheses. -/
theorem parse_of_deepest_parentheses :
    ∃ tokens : List Token, tokens.map (·.kind) = parenthesized 255 [.keyword .clean] ∧
      (ofTokens tokens).parse.1 = .ok (.atom .clean) ∧
      ((∃ e, (ofTokens tokens).parse.1 = .ok e) ↔ 255 < maxDepth) := by
  obtain ⟨tokens, hkinds⟩ := exists_map_kind_eq (parenthesized 255 [.keyword .clean])
  have hderives := Derives.disjunction
    (.conjunction (.operand (Spells.clean.derives_parenthesized 255)))
  rw [← hkinds] at hderives
  have hdeepest := hderives.deepest_eq
  obtain ⟨hparse, haccepted⟩ := parse_of_deepest tokens
  refine ⟨tokens, hkinds, (hparse _ _ hderives).1.mpr ?_, haccepted _ _ 255 .clean (.inl hkinds)⟩
  unfold maxDepth
  omega

/-- A sentence with `maxDepth` levels can be too deep: `clean` in 256 pairs of parentheses is. -/
theorem not_forall_parse_of_deepest_le :
    ¬∀ (tokens : List Token) (d : Nat) (e : Criteria),
      Derives .disjunction d (tokens.map (·.kind)) e →
        deepest [] (tokens.map (·.kind)) ≤ maxDepth → (ofTokens tokens).parse.1 = .ok e := by
  intro h
  obtain ⟨tokens, hkinds⟩ := exists_map_kind_eq (parenthesized 256 [.keyword .clean])
  have hderives := Derives.disjunction
    (.conjunction (.operand (Spells.clean.derives_parenthesized 256)))
  rw [← hkinds] at hderives
  have hdeepest := hderives.deepest_eq
  have hok := h tokens _ _ hderives (by unfold maxDepth; omega)
  have hlt := (exists_parse_eq_ok_iff hderives).mp ⟨_, hok⟩
  exact absurd hlt (by decide)

end Parser

end TrackCriteria
