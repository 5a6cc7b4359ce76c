import TrackCriteria.Proofs.Parser.Balance
import TrackCriteria.Proofs.Parser.ViablePrefix

/-!
# How a parser breaks off

An operand that fails breaks off inside of so many negations and parentheses, each entered and none
left, behind tokens that are balanced in each of them (`operand_breaks`). A call that fails breaks
off in an operand, or outside of all operands (`parse_error`). So what a failed call leaves on the
books, and which parentheses are open where it fails, is read off a single path through the tokens.
-/

namespace TrackCriteria

/-- Whether an error is one of an operand that is about no parenthesis and no nesting. -/
def SyntaxError.IsPlain : SyntaxError → Prop
  | .unknownKeyword _ _ => True
  | .unexpectedToken expected found _ => expected = .expression → found ≠ .rightParen
  | .unexpectedEnd _ => True
  | .invalidDate _ _ => True
  | _ => False

namespace Parser

variable {m : Step Criteria} {n : Nat} {p q : Parser} {err : SyntaxError}

/-! ### Tests -/

theorem expect_error {α : Type} {expected : Expectation} {select : Token → Option α}
    (h : expect expected select p = .error err q) :
    q = p ∧ (err = .unexpectedEnd expected ∨
      ∃ t : Token, err = .unexpectedToken expected t.kind t.span) := by
  obtain ⟨tokens, rest, depth, groups⟩ := p
  cases rest with
  | nil =>
    cases h
    exact ⟨rfl, .inl rfl⟩
  | cons t rest =>
    have hpeek : peek ⟨tokens, t :: rest, depth, groups⟩ =
        .ok (some t) ⟨tokens, t :: rest, depth, groups⟩ := rfl
    rw [expect, bind_ok hpeek] at h
    dsimp only at h
    -- A token that is not let through has not been taken.
    cases hselect : select t with
    | some a =>
      rw [hselect] at h
      cases h
    | none =>
      rw [hselect] at h
      cases h
      exact ⟨rfl, .inr ⟨t, rfl⟩⟩

/-- Where a single token is expected other than an expression, the error is a plain one. -/
theorem isPlain_of_expect_error {α : Type} {expected : Expectation} {select : Token → Option α}
    (hexpected : expected ≠ .expression) (h : expect expected select p = .error err q) :
    q = p ∧ err.IsPlain := by
  obtain ⟨rfl, rfl | ⟨t, rfl⟩⟩ := expect_error h
  · exact ⟨rfl, trivial⟩
  · exact ⟨rfl, fun heq => absurd heq hexpected⟩

theorem fieldText_error (h : fieldText p = .error err q) :
    ∃ rest, rest <:+ p.rest ∧ q = { p with rest := rest } ∧ err.IsPlain := by
  rcases bind_eq_error.mp h with hcolon | ⟨_, p', hcolon, htext⟩
  · obtain ⟨rfl, hplain⟩ := isPlain_of_expect_error (by rintro ⟨⟩) hcolon
    exact ⟨q.rest, List.suffix_refl _, rfl, hplain⟩
  · obtain ⟨t, rest, hrest, -, rfl⟩ := expect_eq_ok.mp hcolon
    obtain ⟨rfl, hplain⟩ := isPlain_of_expect_error (by rintro ⟨⟩) htext
    exact ⟨rest, hrest ▸ List.suffix_cons t rest, rfl, hplain⟩

theorem comparison_error (h : comparison p = .error err q) :
    ∃ rest, rest <:+ p.rest ∧ q = { p with rest := rest } ∧ err.IsPlain := by
  obtain ⟨tokens, rest, depth, groups⟩ := p
  cases rest with
  | nil =>
    cases h
    exact ⟨[], List.suffix_refl _, rfl, trivial⟩
  | cons t rest =>
    obtain ⟨kind, span⟩ := t
    -- Unlike above, the token that is no operator has been taken.
    cases kind with
    | comparison op => cases h
    | _ =>
      cases h
      exact ⟨rest, List.suffix_cons _ rest, rfl, by rintro ⟨⟩⟩

theorem dateSpec_error (h : dateSpec p = .error err q) :
    ∃ rest, rest <:+ p.rest ∧ q = { p with rest := rest } ∧ err.IsPlain := by
  rcases bind_eq_error.mp h with hvalue | ⟨⟨literal, span⟩, p', hvalue, hspec⟩
  · obtain ⟨rfl, hplain⟩ := isPlain_of_expect_error (by rintro ⟨⟩) hvalue
    exact ⟨q.rest, List.suffix_refl _, rfl, hplain⟩
  · -- A value has been taken that is not the literal of a date.
    obtain ⟨t, rest, hrest, -, rfl⟩ := expect_eq_ok.mp hvalue
    dsimp only at hspec
    cases hliteral : DateSpec.ofLiteral? literal.toList with
    | some spec =>
      rw [hliteral] at hspec
      cases hspec
    | none =>
      rw [hliteral] at hspec
      cases hspec
      exact ⟨rest, hrest ▸ List.suffix_cons t rest, rfl, trivial⟩

/-- A test that fails has passed some tokens and changed nothing else. -/
theorem test_error {k : Keyword} (h : test k p = .error err q) :
    ∃ rest, rest <:+ p.rest ∧ q = { p with rest := rest } ∧ err.IsPlain := by
  cases k with
  | clean => cases h
  | explicit => cases h
  | unlabeled => cases h
  | text field =>
    rcases bind_eq_error.mp h with htext | ⟨value, p', -, ⟨⟩⟩
    exact fieldText_error htext
  | date field =>
    -- The operator has failed, or it was taken and the date behind it has failed.
    rcases bind_eq_error.mp h with hop | ⟨op, p', hop, h⟩
    · exact comparison_error hop
    · rcases bind_eq_error.mp h with hspec | ⟨spec, p'', -, ⟨⟩⟩
      obtain ⟨t, rest, hrest, -, rfl⟩ := comparison_eq_ok.mp hop
      obtain ⟨rest', hsuffix, rfl, hplain⟩ := dateSpec_error hspec
      refine ⟨rest', hsuffix.trans ?_, rfl, hplain⟩
      rw [hrest]
      exact List.suffix_cons t rest

/-! ### The path to an error -/

/-- How an operand with `n` levels left breaks off. -/
inductive BreaksOff : Nat → Parser → SyntaxError → Parser → Prop where
  /-- There is no level left. -/
  | tooDeep {p : Parser} (span : Span) :
    BreaksOff 0 p (.nestingTooDeep span) { p with depth := p.depth + 1 }
  /-- The operand behind `!` breaks off. -/
  | negated {n : Nat} {tokens rest : List Token} {depth groups : Nat} {t : Token}
    {err : SyntaxError} {q : Parser} (hkind : t.kind = .not)
    (h : BreaksOff n ⟨tokens, rest, depth + 1, groups⟩ err q) :
    BreaksOff (n + 1) ⟨tokens, t :: rest, depth, groups⟩ err q
  /-- An operand in parentheses breaks off. The tokens between are balanced. -/
  | inside {n : Nat} {tokens front rest : List Token} {depth groups : Nat} {t : Token}
    {err : SyntaxError} {q : Parser} (hkind : t.kind = .leftParen)
    (hfront : IsBalanced (front.map (·.kind)))
    (h : BreaksOff n ⟨tokens, rest, depth + 1, groups + 1⟩ err q) :
    BreaksOff (n + 1) ⟨tokens, t :: (front ++ rest), depth, groups⟩ err q
  /-- The tokens end behind a complete expression in parentheses. -/
  | unclosed {n : Nat} {tokens inner : List Token} {depth groups : Nat} {t : Token}
    (hkind : t.kind = .leftParen) (hinner : IsBalanced (inner.map (·.kind))) :
    BreaksOff (n + 1) ⟨tokens, t :: inner, depth, groups⟩ (.unclosedParen t.span)
      ⟨tokens, [], depth + 1, groups + 1⟩
  /-- A complete expression in parentheses is not followed by the closing one. -/
  | interrupted {n : Nat} {tokens inner rest : List Token} {depth groups : Nat} {t u : Token}
    (hkind : t.kind = .leftParen) (hother : u.kind ≠ .rightParen) :
    BreaksOff (n + 1) ⟨tokens, t :: (inner ++ u :: rest), depth, groups⟩
      (.unexpectedToken .closingParen u.kind u.span) ⟨tokens, u :: rest, depth + 1, groups + 1⟩
  /-- A closing parenthesis stands where an operand should start. -/
  | closing {n : Nat} {tokens rest : List Token} {depth groups : Nat} {t : Token}
    (hkind : t.kind = .rightParen) :
    BreaksOff (n + 1) ⟨tokens, t :: rest, depth, groups⟩
      (if groups = 0 then .unmatchedParen t.span else .unexpectedToken .expression t.kind t.span)
      ⟨tokens, rest, depth + 1, groups⟩
  /-- A test fails, or what stands here starts no operand. -/
  | plain {n : Nat} {tokens rest rest' : List Token} {depth groups : Nat} {err : SyntaxError}
    (hsuffix : rest' <:+ rest) (hplain : err.IsPlain) :
    BreaksOff (n + 1) ⟨tokens, rest, depth, groups⟩ err ⟨tokens, rest', depth + 1, groups⟩

/-- A step with `n` levels left fails in an operand behind balanced tokens. -/
def Breaks (n : Nat) (m : Step Criteria) : Prop :=
  ∀ p err q, m p = .error err q → ∃ front rest, p.rest = front ++ rest ∧
    IsBalanced (front.map (·.kind)) ∧ BreaksOff n { p with rest := rest } err q

/-! ### Chains -/

variable {rule item : Rule} {op : Token.Kind} {join : Criteria → Criteria → Criteria}

theorem links_breaks (hleft : op ≠ .leftParen) (hright : op ≠ .rightParen) (hm : Reads item n m)
    (hbreaks : Breaks n m) (bound : Nat) (left : Criteria) :
    Breaks n (links op join m bound left) := by
  induction bound generalizing left with
  | zero => rintro p err q ⟨⟩
  | succ bound ih =>
    rintro ⟨tokens, rest, depth, groups⟩ err q h
    rcases head_eq_or_ne op rest with ⟨t, rest, rfl, hkind⟩ | hne
    · -- The operator and the items before the one that fails are balanced.
      rw [links_cons hkind] at h
      have hcons : ∀ {ks : List Token.Kind}, IsBalanced ks → IsBalanced (t.kind :: ks) :=
        fun hks => hks.cons (by rwa [hkind]) (by rwa [hkind])
      rcases bind_eq_error.mp h with herror | ⟨right, p', hok, herror⟩
      · obtain ⟨front, rest', hrest, hfront, hoff⟩ := hbreaks _ err q herror
        exact ⟨t :: front, rest', congrArg (t :: ·) hrest, hcons hfront, hoff⟩
      · obtain ⟨ts, _, d, hts, rfl, -, hderives⟩ := hm _ _ _ hok
        obtain ⟨front, rest', hrest, hfront, hoff⟩ := ih _ _ err q herror
        dsimp only at hts hrest
        refine ⟨t :: (ts ++ front), rest', ?_, ?_, hoff⟩
        · rw [hts, hrest, List.cons_append, List.append_assoc]
        · rw [List.map_cons, List.map_append]
          exact hcons (hderives.isBalanced.append hfront)
    · rw [links_of_ne hne] at h
      cases h

theorem chain_breaks (hleft : op ≠ .leftParen) (hright : op ≠ .rightParen) (hm : Reads item n m)
    (hbreaks : Breaks n m) : Breaks n (chain op join m) := by
  intro p err q h
  rcases bind_eq_error.mp h with herror | ⟨left, p', hok, herror⟩
  · exact hbreaks p err q herror
  · -- The first item is balanced, and so is what the links after it have passed.
    obtain ⟨ts, _, d, hts, rfl, -, hderives⟩ := hm _ _ _ hok
    obtain ⟨front, rest, hrest, hfront, hoff⟩ :=
      links_breaks hleft hright hm hbreaks _ left _ err q herror
    dsimp only at hrest
    refine ⟨ts ++ front, rest, ?_, ?_, hoff⟩
    · rw [hts, hrest, List.append_assoc]
    · rw [List.map_append]
      exact hderives.isBalanced.append hfront

theorem disjunction_breaks (hbreaks : Breaks n (operand n)) :
    Breaks n (disjunction (operand n)) := by
  refine chain_breaks (by rintro ⟨⟩) (by rintro ⟨⟩)
    (chain_reads isChain_conjunction (operand_reads n)) ?_
  exact chain_breaks (by rintro ⟨⟩) (by rintro ⟨⟩) (operand_reads n) hbreaks

/-! ### Groups and operands -/

/-- A group fails inside, or is complete and not closed. -/
theorem group_eq_error {opening : Span} (h : group opening m p = .error err q) :
    m { p with groups := p.groups + 1 } = .error err q ∨
      ∃ e, m { p with groups := p.groups + 1 } = .ok e q ∧
        ((q.rest = [] ∧ err = .unclosedParen opening) ∨
          ∃ u rest, q.rest = u :: rest ∧ u.kind ≠ .rightParen ∧
            err = .unexpectedToken .closingParen u.kind u.span) := by
  replace h : (m >>= _) { p with groups := p.groups + 1 } = .error err q := h
  rcases bind_eq_error.mp h with herror | ⟨e, ⟨tokens, rest, depth, groups⟩, hok, herror⟩
  · exact .inl herror
  · -- What is inside is complete, so it is about what stands in place of the closing parenthesis.
    refine .inr ⟨e, ?_⟩
    cases rest with
    | nil =>
      cases herror
      exact ⟨hok, .inl ⟨rfl, rfl⟩⟩
    | cons u rest =>
      replace herror : (if u.kind = .rightParen then _ else _ : Step Criteria) _ = _ := herror
      split at herror
      · cases herror
      · next hother =>
        cases herror
        exact ⟨hok, .inr ⟨u, rest, rfl, hother, rfl⟩⟩

/-- A primary expression breaks off in the same way as the operand that it is. -/
theorem primary_breaksOff (hbreaks : Breaks n (operand n))
    (h : primary (disjunction (operand n)) { p with depth := p.depth + 1 } = .error err q) :
    BreaksOff (n + 1) p err q := by
  obtain ⟨tokens, rest, depth, groups⟩ := p
  cases rest with
  | nil =>
    cases h
    exact .plain (List.suffix_refl _) trivial
  | cons t rest =>
    obtain ⟨kind, span⟩ := t
    cases kind with
    | leftParen =>
      rw [primary_leftParen rfl] at h
      rcases group_eq_error h with herror | ⟨e, hok, hnot⟩
      · obtain ⟨front, rest', rfl, hfront, hoff⟩ := disjunction_breaks hbreaks _ err q herror
        exact .inside rfl hfront hoff
      · -- The expression is complete, and a group was opened for it that is still on the books.
        obtain ⟨inner, rest', d, rfl, rfl, -, hderives⟩ :=
          disjunction_reads (operand_reads n) _ _ _ hok
        rcases hnot with ⟨rfl, rfl⟩ | ⟨u, rest'', rfl, hother, rfl⟩
        · rw [List.append_nil]
          exact .unclosed (t := ⟨.leftParen, span⟩) rfl hderives.isBalanced
        · exact .interrupted rfl hother
    | keyword k =>
      rw [primary_keyword rfl] at h
      rcases bind_eq_error.mp h with htest | ⟨a, p', -, ⟨⟩⟩
      obtain ⟨rest', hsuffix, rfl, hplain⟩ := test_error htest
      exact .plain (hsuffix.trans (List.suffix_cons _ rest)) hplain
    | rightParen =>
      have hclosing : BreaksOff (n + 1) ⟨tokens, ⟨.rightParen, span⟩ :: rest, depth, groups⟩ _
          ⟨tokens, rest, depth + 1, groups⟩ := .closing (t := ⟨.rightParen, span⟩) rfl
      cases groups with
      | zero =>
        cases h
        exact hclosing
      | succ groups =>
        cases h
        exact hclosing
    | identifier word =>
      cases h
      exact .plain (List.suffix_cons _ rest) trivial
    | _ =>
      cases h
      exact .plain (List.suffix_cons _ rest) (by rintro - ⟨⟩)

theorem operand_breaks (n : Nat) : Breaks n (operand n) := by
  -- An operand has no balanced tokens in front of the one that fails: it fails itself.
  suffices hoff : ∀ p err q, operand n p = .error err q → BreaksOff n p err q from
    fun p err q h => ⟨[], p.rest, rfl, isBalanced_nil, hoff p err q h⟩
  induction n with
  | zero =>
    intro p err q h
    obtain ⟨span, herror⟩ := operand_zero p
    rw [herror] at h
    cases h
    exact .tooDeep span
  | succ n ih =>
    rintro ⟨tokens, rest, depth, groups⟩ err q h
    rcases head_eq_or_ne .not rest with ⟨t, rest, rfl, hkind⟩ | hne
    · rw [operand_not hkind] at h
      rcases bind_eq_error.mp h with herror | ⟨e, p', -, ⟨⟩⟩
      exact .negated hkind (ih _ err q herror)
    · rw [operand_of_ne hne] at h
      rcases bind_eq_error.mp h with herror | ⟨e, p', -, ⟨⟩⟩
      refine primary_breaksOff ?_ herror
      exact fun p err q h => ⟨[], p.rest, rfl, isBalanced_nil, ih p err q h⟩

/-! ### Calls -/

/-- Whether the error of a call lies outside of all operands: there is no token, or a complete
expression is followed by another token. -/
def IsOutside (p : Parser) : SyntaxError → Prop
  | .empty => True
  | .trailingInput _ _ => True
  | .unmatchedParen span => ∃ (ts : List Token) (t : Token) (rest : List Token) (d : Nat)
      (e : Criteria), p.rest = ts ++ t :: rest ∧ t.span = span ∧ t.kind = .rightParen ∧
        Derives .disjunction d (ts.map (·.kind)) e
  | _ => False

/-- No operand finds that there is no token at all, or too many. -/
theorem BreaksOff.ne_outside (h : BreaksOff n p err q) :
    err ≠ .empty ∧ ∀ found span, err ≠ .trailingInput found span := by
  induction h with
  | negated _ _ ih => exact ih
  | inside _ _ _ ih => exact ih
  | closing =>
    -- About the parenthesis it is said that it is unmatched or that it is unexpected.
    split
    · exact ⟨by rintro ⟨⟩, by rintro found span ⟨⟩⟩
    · exact ⟨by rintro ⟨⟩, by rintro found span ⟨⟩⟩
  | plain _ hplain =>
    constructor
    · rintro rfl
      exact hplain
    · rintro found span rfl
      exact hplain
  | _ => exact ⟨by rintro ⟨⟩, by rintro found span ⟨⟩⟩

/-- A complete expression in front of a closing parenthesis is read, or nested too deep. -/
theorem disjunction_ne_unmatchedParen {ts rest : List Token} {t : Token} {d : Nat} {e : Criteria}
    (hrest : p.rest = ts ++ t :: rest) (hkind : t.kind = .rightParen)
    (hderives : Derives .disjunction d (ts.map (·.kind)) e) (span : Span) :
    disjunction (operand n) p ≠ .error (.unmatchedParen span) q := by
  obtain ⟨tokens, _, depth, groups⟩ := p
  obtain rfl := hrest
  intro herror
  have hhead : ∀ k : Token.Kind, k ≠ .rightParen → ∀ u ∈ (t :: rest).head?, u.kind ≠ k := by
    rintro k hk u ⟨⟩
    rw [hkind]
    exact hk.symm
  -- The expression ends in front of the parenthesis, so it is read to its end or is too deep.
  have hwithin := completes hderives n ts rfl tokens (t :: rest) depth groups
    (hhead _ (by rintro ⟨⟩))
  rw [links_of_ne (hhead _ (by rintro ⟨⟩)), herror] at hwithin
  rcases Nat.lt_or_ge n d with hd | hd
  · obtain ⟨span', q', hdeep⟩ := hwithin.2 hd
    cases hdeep
  · cases hwithin.1 hd

/-- A call that succeeds has passed all tokens and changed nothing else. -/
theorem parse_ok {e : Criteria} (h : p.parse.1 = .ok e) : p.parse.2 = { p with rest := [] } := by
  unfold parse at h ⊢
  cases hexpression : expression p with
  | error err q =>
    rw [hexpression] at h
    cases h
  | ok e q =>
    obtain ⟨-, hdisj, hrest⟩ := expression_eq_ok.mp hexpression
    obtain ⟨ts, rest, d, -, rfl, -⟩ := disjunction_reads (operand_reads _) p e q hdisj
    obtain rfl : rest = [] := hrest
    rfl

/-- A call that fails does so outside of all operands, or in one behind balanced tokens. -/
theorem parse_error (h : p.parse.1 = .error err) :
    (IsOutside p err ∧ ∃ rest, rest <:+ p.rest ∧ p.parse.2 = { p with rest := rest }) ∨
      (¬IsOutside p err ∧ ∃ front rest, p.rest = front ++ rest ∧
        IsBalanced (front.map (·.kind)) ∧
        BreaksOff (maxDepth - p.depth) { p with rest := rest } err p.parse.2) := by
  by_cases hne : p.tokens = []
  · obtain ⟨tokens, rest, depth, groups⟩ := p
    obtain rfl : tokens = [] := hne
    cases h
    exact .inl ⟨trivial, rest, List.suffix_refl _, rfl⟩
  · cases hdisj : disjunction (operand (maxDepth - p.depth)) p with
    | error err' q =>
      obtain ⟨front, rest, hrest, hfront, hoff⟩ :=
        disjunction_breaks (operand_breaks _) p err' q hdisj
      have hexpression := expression_error hne hdisj
      rw [parse_of_expression_error hexpression] at h
      cases h
      refine .inr ⟨?_, front, rest, hrest, hfront, ?_⟩
      · -- Only an unmatched parenthesis can be found in an operand as well as behind an expression.
        cases err with
        | empty => exact absurd rfl hoff.ne_outside.1
        | trailingInput found span => exact absurd rfl (hoff.ne_outside.2 found span)
        | unmatchedParen span =>
          rintro ⟨ts, t, rest', d, e, hrest', -, hkind, hderives⟩
          exact disjunction_ne_unmatchedParen hrest' hkind hderives span hdisj
        | _ => exact id
      · rw [parse, hexpression]
        exact hoff
    | ok e q =>
      obtain ⟨ts, rest, d, hrest, rfl, -, hderives⟩ :=
        disjunction_reads (operand_reads _) p e q hdisj
      cases rest with
      | nil =>
        rw [parse, expression_eq_ok.mpr ⟨hne, hdisj, rfl⟩] at h
        cases h
      | cons t rest =>
        have hexpression := expression_of_cons hne hdisj
        rw [parse_of_expression_error hexpression] at h
        cases h
        refine .inl ⟨?_, t :: rest, hrest ▸ List.suffix_append ts _, ?_⟩
        · split
          · next hkind => exact ⟨ts, t, rest, d, e, hrest, rfl, hkind, hderives⟩
          · trivial
        · rw [parse, hexpression]

end Parser

end TrackCriteria
