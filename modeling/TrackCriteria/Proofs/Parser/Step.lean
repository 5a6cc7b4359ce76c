import TrackCriteria.Criteria.Parser
import Mathlib.Tactic.Common

/-!
# The steps of a parser

What each step of a parser does in each state. A state is written out as all tokens, the tokens that
are left, the depth and the open groups.
-/

namespace TrackCriteria.Parser

variable {α β : Type}

/-! ### Sequences of steps -/

theorem bind_ok {m : Step α} {f : α → Step β} {p p' : Parser} {a : α} (h : m p = .ok a p') :
    (m >>= f) p = f a p' := by
  show EStateM.bind m f p = _
  rw [EStateM.bind, h]

theorem bind_error {m : Step α} {f : α → Step β} {p p' : Parser} {err : SyntaxError}
    (h : m p = .error err p') : (m >>= f) p = .error err p' := by
  show EStateM.bind m f p = _
  rw [EStateM.bind, h]

/-- A sequence succeeds iff its first step does and the others do after it. -/
theorem bind_eq_ok {m : Step α} {f : α → Step β} {p q : Parser} {b : β} :
    (m >>= f) p = .ok b q ↔ ∃ a p', m p = .ok a p' ∧ f a p' = .ok b q := by
  cases h : m p with
  | ok a p' =>
    rw [bind_ok h]
    constructor
    · intro hf
      exact ⟨a, p', rfl, hf⟩
    · rintro ⟨a', p'', heq, hf⟩
      cases heq
      exact hf
  | error err p' =>
    rw [bind_error h]
    constructor
    · intro hf
      cases hf
    · rintro ⟨a', p'', heq, -⟩
      cases heq

/-! ### Elementary steps -/

variable {tokens rest : List Token} {depth groups : Nat}

/-- Either the next token is of the given kind, or it is not or there is none. -/
theorem head_eq_or_ne (kind : Token.Kind) (ts : List Token) :
    (∃ t rest, ts = t :: rest ∧ t.kind = kind) ∨ ∀ t ∈ ts.head?, t.kind ≠ kind := by
  cases ts with
  | nil =>
    refine .inr ?_
    rintro t ⟨⟩
  | cons t rest =>
    by_cases h : t.kind = kind
    · exact .inl ⟨t, rest, rfl, h⟩
    · refine .inr ?_
      rintro t' ⟨⟩
      exact h

theorem accept_cons {kind : Token.Kind} {t : Token} (h : t.kind = kind) :
    accept kind ⟨tokens, t :: rest, depth, groups⟩ = .ok true ⟨tokens, rest, depth, groups⟩ := by
  show (if t.kind = kind then _ else _ : Step Bool) _ = _
  rw [if_pos h]
  rfl

/-- A parser whose next token is not of the given kind passes nothing. -/
theorem accept_of_ne {kind : Token.Kind} {p : Parser} (h : ∀ t ∈ p.rest.head?, t.kind ≠ kind) :
    accept kind p = .ok false p := by
  obtain ⟨tokens, rest, depth, groups⟩ := p
  cases rest with
  | nil => rfl
  | cons t rest =>
    show (if t.kind = kind then _ else _ : Step Bool) _ = _
    rw [if_neg (h t rfl)]
    rfl

theorem expect_eq_ok {expected : Expectation} {select : Token → Option α} {p q : Parser} {a : α} :
    expect expected select p = .ok a q ↔
      ∃ t rest, p.rest = t :: rest ∧ select t = some a ∧ q = { p with rest := rest } := by
  obtain ⟨tokens, rest, depth, groups⟩ := p
  cases rest with
  | nil =>
    constructor
    · intro h
      cases h
    · rintro ⟨t, rest, h, -⟩
      cases h
  | cons t rest =>
    have hpeek : peek ⟨tokens, t :: rest, depth, groups⟩ =
        .ok (some t) ⟨tokens, t :: rest, depth, groups⟩ := rfl
    rw [expect, bind_ok hpeek]
    dsimp only
    -- The token has only been looked at; `select` decides whether it is passed.
    cases hselect : select t with
    | none =>
      constructor
      · intro h
        cases h
      · rintro ⟨t', rest', heq, hsome, -⟩
        cases heq
        rw [hselect] at hsome
        cases hsome
    | some b =>
      constructor
      · intro h
        cases h
        exact ⟨t, rest, rfl, hselect, rfl⟩
      · rintro ⟨t', rest', heq, hsome, rfl⟩
        cases heq
        rw [hselect] at hsome
        cases hsome
        rfl

/-! ### Chains -/

variable {op : Token.Kind} {join : Criteria → Criteria → Criteria} {m : Step Criteria}

/-- The next link of a chain. -/
theorem links_cons {t : Token} (h : t.kind = op) (bound : Nat) (left : Criteria) :
    links op join m (bound + 1) left ⟨tokens, t :: rest, depth, groups⟩ =
      (m >>= fun right => links op join m bound (join left right)) ⟨tokens, rest, depth, groups⟩ :=
  bind_ok (accept_cons h)

/-- A chain ends where its operator does not follow. -/
theorem links_of_ne {p : Parser} (h : ∀ t ∈ p.rest.head?, t.kind ≠ op) (bound : Nat)
    (left : Criteria) : links op join m bound left p = .ok left p := by
  cases bound with
  | zero => rfl
  | succ bound => exact bind_ok (accept_of_ne h)

theorem chain_of_ok {p q : Parser} {e : Criteria} (h : m p = .ok e q) :
    chain op join m p = links op join m q.rest.length e q :=
  bind_ok h

theorem chain_error {p q : Parser} {err : SyntaxError} (h : m p = .error err q) :
    chain op join m p = .error err q :=
  bind_error h

/-! ### Groups -/

theorem group_eq_ok {opening : Span} {p q : Parser} {e : Criteria} :
    group opening m p = .ok e q ↔
      ∃ p' t rest, m { p with groups := p.groups + 1 } = .ok e p' ∧ p'.rest = t :: rest ∧
        t.kind = .rightParen ∧ q = { p' with rest := rest, groups := p'.groups - 1 } := by
  constructor
  · intro h
    -- The first step of a group only counts it, so the inner expression is the first to fail.
    obtain ⟨e', p', hm, h⟩ :=
      bind_eq_ok.mp (show (m >>= _) { p with groups := p.groups + 1 } = _ from h)
    obtain ⟨tokens, rest, depth, groups⟩ := p'
    cases rest with
    | nil => cases h
    | cons t rest =>
      replace h : (if t.kind = .rightParen then _ else _ : Step Criteria) _ = _ := h
      split at h
      · next hkind =>
        cases h
        exact ⟨_, t, rest, hm, rfl, hkind, rfl⟩
      · cases h
  · rintro ⟨⟨tokens, _, depth, groups⟩, t, rest, hm, rfl, hkind, rfl⟩
    refine (bind_ok (p := { p with groups := p.groups + 1 }) hm).trans ?_
    show (if t.kind = .rightParen then _ else _ : Step Criteria) _ = _
    rw [if_pos hkind]
    rfl

theorem group_error {opening : Span} {p q : Parser} {err : SyntaxError}
    (h : m { p with groups := p.groups + 1 } = .error err q) :
    group opening m p = .error err q :=
  bind_error (p := { p with groups := p.groups + 1 }) h

/-! ### Primary expressions -/

theorem primary_leftParen {t : Token} (h : t.kind = .leftParen) :
    primary m ⟨tokens, t :: rest, depth, groups⟩
      = group t.span m ⟨tokens, rest, depth, groups⟩ := by
  obtain ⟨kind, span⟩ := t
  obtain rfl : kind = .leftParen := h
  rfl

theorem primary_keyword {t : Token} {k : Keyword} (h : t.kind = .keyword k) :
    primary m ⟨tokens, t :: rest, depth, groups⟩
      = (test k >>= fun a => pure (.atom a)) ⟨tokens, rest, depth, groups⟩ := by
  obtain ⟨kind, span⟩ := t
  obtain rfl : kind = .keyword k := h
  rfl

/-- A primary expression starts with a parenthesis or a keyword. -/
theorem primary_eq_ok {p q : Parser} {e : Criteria} (h : primary m p = .ok e q) :
    ∃ t rest, p.rest = t :: rest ∧
      ((t.kind = .leftParen ∧ group t.span m { p with rest := rest } = .ok e q) ∨
        ∃ k a, t.kind = .keyword k ∧ e = .atom a ∧ test k { p with rest := rest } = .ok a q) := by
  obtain ⟨tokens, rest, depth, groups⟩ := p
  cases rest with
  | nil => cases h
  | cons t rest =>
    obtain ⟨kind, span⟩ := t
    refine ⟨⟨kind, span⟩, rest, rfl, ?_⟩
    cases kind with
    | leftParen => exact .inl ⟨rfl, h⟩
    | keyword k =>
      rw [primary_keyword rfl, bind_eq_ok] at h
      obtain ⟨a, p', htest, hpure⟩ := h
      cases hpure
      exact .inr ⟨k, a, rfl, rfl, htest⟩
    | rightParen =>
      -- It closes nothing or comes too early, and is an error in either case.
      replace h : (if groups = 0 then _ else _ : Step Criteria) _ = _ := h
      split at h <;> cases h
    | _ => cases h

/-! ### Operands -/

theorem enter_eq (p : Parser) : enter p = .ok () { p with depth := p.depth + 1 } := rfl

theorem operand_zero (p : Parser) :
    ∃ span, operand 0 p = .error (.nestingTooDeep span) { p with depth := p.depth + 1 } := by
  obtain ⟨tokens, rest, depth, groups⟩ := p
  cases rest with
  | nil => exact ⟨_, rfl⟩
  | cons t rest => exact ⟨_, rfl⟩

/-- Behind `!` the operand has a level less. -/
theorem operand_not {t : Token} (h : t.kind = .not) (levels : Nat) :
    operand (levels + 1) ⟨tokens, t :: rest, depth, groups⟩
      = (operand levels >>= fun e => leave >>= fun _ => pure (.not e))
          ⟨tokens, rest, depth + 1, groups⟩ := by
  rw [operand]
  exact (bind_ok (enter_eq _)).trans (bind_ok (accept_cons h))

/-- Without `!` it is a primary expression, with a level less in its parentheses. -/
theorem operand_of_ne {p : Parser} (h : ∀ t ∈ p.rest.head?, t.kind ≠ .not) (levels : Nat) :
    operand (levels + 1) p
      = (primary (disjunction (operand levels)) >>= fun e => leave >>= fun _ => pure e)
          { p with depth := p.depth + 1 } := by
  rw [operand]
  have haccept : accept .not { p with depth := p.depth + 1 } = .ok false _ := accept_of_ne h
  exact (bind_ok (enter_eq _)).trans (bind_ok haccept)

/-! ### Whole expressions -/

theorem expression_eq_ok {p q : Parser} {e : Criteria} :
    expression p = .ok e q ↔
      p.tokens ≠ [] ∧ disjunction (operand (maxDepth - p.depth)) p = .ok e q ∧ q.rest = [] := by
  obtain ⟨tokens, rest, depth, groups⟩ := p
  cases tokens with
  | nil =>
    constructor
    · rintro ⟨⟩
    · rintro ⟨h, -⟩
      exact absurd rfl h
  | cons t tokens =>
    constructor
    · intro h
      obtain ⟨e', ⟨tokens', rest', depth', groups'⟩, hdisj, h⟩ :=
        bind_eq_ok.mp (show (disjunction (operand (maxDepth - depth)) >>= _) _ = _ from h)
      -- A token that is left over is an error, and which one depends on the token.
      cases rest' with
      | nil =>
        cases h
        exact ⟨List.cons_ne_nil _ _, hdisj, rfl⟩
      | cons t' rest' =>
        replace h : (if t'.kind = .rightParen then _ else _ : Step Criteria) _ = _ := h
        split at h <;> cases h
    · obtain ⟨tokens', rest', depth', groups'⟩ := q
      rintro ⟨-, hdisj, rfl⟩
      exact bind_ok hdisj

theorem expression_error {p q : Parser} {err : SyntaxError} (hne : p.tokens ≠ [])
    (h : disjunction (operand (maxDepth - p.depth)) p = .error err q) :
    expression p = .error err q := by
  obtain ⟨tokens, rest, depth, groups⟩ := p
  cases tokens with
  | nil => exact absurd rfl hne
  | cons t tokens =>
    show (disjunction (operand (maxDepth - depth)) >>= _) _ = _
    exact bind_error h

end TrackCriteria.Parser
