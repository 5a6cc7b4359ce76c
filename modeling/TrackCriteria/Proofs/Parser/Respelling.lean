import TrackCriteria.Proofs.Parser.Step

/-!
# Tokens that a parser takes for the same

A parser goes by the kinds of its tokens and by what literals denote. How a word that is no keyword
is spelled, which of several spellings a literal has, and where a token stands shows in errors only
(`Respelling`). So each step does with respelled tokens what it does with the tokens (`Mirrors`),
and the whole answers with the same criteria or with the respelled error (`parse_respelled`,
`Criteria.ofTokens_map`).
-/

namespace TrackCriteria

/-! ### Other spellings and other places -/

/-- A kind of tokens with another spelling of words that are no keywords and of literals. -/
def Token.Kind.respell (word literal : String → String) : Token.Kind → Token.Kind
  | .identifier w => .identifier (word w)
  | .value l => .value (literal l)
  | kind => kind

/-- A token with another spelling, at another place. -/
def Token.respell (word literal : String → String) (place : Span → Span) (t : Token) : Token :=
  ⟨t.kind.respell word literal, place t.span⟩

/-- The same error about tokens with another spelling, at other places. -/
def SyntaxError.respell (word literal : String → String) (place : Span → Span) :
    SyntaxError → SyntaxError
  | .empty => .empty
  | .unterminatedString span => .unterminatedString (place span)
  | .illegalCharacter c span => .illegalCharacter c (place span)
  | .unknownKeyword w span => .unknownKeyword (word w) (place span)
  | .unexpectedToken expected found span =>
    .unexpectedToken expected (found.respell word literal) (place span)
  | .unexpectedEnd expected => .unexpectedEnd expected
  | .unclosedParen span => .unclosedParen (place span)
  | .unmatchedParen span => .unmatchedParen (place span)
  | .trailingInput found span => .trailingInput (found.respell word literal) (place span)
  | .invalidDate l span => .invalidDate (literal l) (place span)
  | .nestingTooDeep span => .nestingTooDeep (place span)

section

variable {word literal : String → String} {place : Span → Span}

/-- The kinds that are spelled in one way only stay what they are, and no other becomes one of
them. -/
theorem Token.Kind.respell_eq_iff {k kind : Token.Kind} (hword : ∀ w, kind ≠ .identifier w)
    (hliteral : ∀ l, kind ≠ .value l) : k.respell word literal = kind ↔ k = kind := by
  cases k with
  | identifier w => exact iff_of_false (hword _).symm (hword _).symm
  | value l => exact iff_of_false (hliteral _).symm (hliteral _).symm
  | _ => rfl

theorem Token.Kind.respell_id (kind : Token.Kind) : kind.respell id id = kind := by
  cases kind <;> rfl

theorem SyntaxError.ctorIdx_respell (err : SyntaxError) :
    (err.respell word literal place).ctorIdx = err.ctorIdx := by
  cases err <;> rfl

theorem SyntaxError.span?_respell (err : SyntaxError) :
    (err.respell word literal place).span? = err.span?.map place := by
  cases err <;> rfl

/-- An error has one place at most. -/
theorem SyntaxError.respell_congr {place' : Span → Span} {err : SyntaxError}
    (h : ∀ s ∈ err.span?, place s = place' s) :
    err.respell word literal place = err.respell word literal place' := by
  cases err with
  | empty => rfl
  | unexpectedEnd => rfl
  | _ => simp only [respell, h _ rfl]

end

/-- A way to spell and place tokens that a parser does not notice. -/
structure Respelling where
  word : String → String
  literal : String → String
  place : Span → Span
  /-- Literals denote what they did. -/
  ofLiteral?_literal (l : String) :
    DateSpec.ofLiteral? (literal l).toList = DateSpec.ofLiteral? l.toList
  /-- An error that is about no token stays at the front of the source. -/
  place_front : place ⟨0, 0⟩ = ⟨0, 0⟩

namespace Respelling

open TrackCriteria.Parser

variable (r : Respelling) {α β γ δ : Type}

/-- The token as it is spelled and placed after the change. -/
def token (t : Token) : Token :=
  t.respell r.word r.literal r.place

/-- The error that respelled tokens lead to in place of this one. -/
def error (err : SyntaxError) : SyntaxError :=
  err.respell r.word r.literal r.place

/-- A parser at the same place of the respelled tokens. -/
def parser (p : Parser) : Parser :=
  ⟨p.tokens.map r.token, p.rest.map r.token, p.depth, p.groups⟩

/-- What a step does with respelled tokens, if it answers with `f a` in place of `a`. -/
def result (f : α → β) :
    EStateM.Result SyntaxError Parser α → EStateM.Result SyntaxError Parser β
  | .ok a p => .ok (f a) (r.parser p)
  | .error err p => .error (r.error err) (r.parser p)

/-- The step `m'` does with respelled tokens what `m` does with the tokens. -/
def Mirrors (f : α → β) (m : Step α) (m' : Step β) : Prop :=
  ∀ p, m' (r.parser p) = r.result f (m p)

variable {r} {f : α → β} {g : γ → δ}

/-! ### Sequences of steps -/

theorem Mirrors.bind {m : Step α} {m' : Step β} {k : α → Step γ} {k' : β → Step δ}
    (hm : r.Mirrors f m m') (hk : ∀ a, r.Mirrors g (k a) (k' (f a))) :
    r.Mirrors g (m >>= k) (m' >>= k') := by
  intro p
  have hp := hm p
  cases h : m p with
  | ok a q =>
    rw [h] at hp
    rw [bind_ok h, bind_ok hp, hk a q]
  | error err q =>
    rw [h] at hp
    rw [bind_error h, bind_error hp]
    rfl

theorem mirrors_pure (a : α) : r.Mirrors f (pure a) (pure (f a)) :=
  fun _ => rfl

theorem mirrors_throw (err : SyntaxError) :
    r.Mirrors f (throw err) (throw (r.error err)) :=
  fun _ => rfl

theorem mirrors_get : r.Mirrors r.parser get get :=
  fun _ => rfl

theorem mirrors_ite {c c' : Prop} [Decidable c] [Decidable c'] {m n : Step α} {m' n' : Step β}
    (hc : c' ↔ c) (hm : r.Mirrors f m m') (hn : r.Mirrors f n n') :
    r.Mirrors f (if c then m else n) (if c' then m' else n') := by
  by_cases h : c
  · rw [if_pos h, if_pos (hc.mpr h)]
    exact hm
  · rw [if_neg h, if_neg (mt hc.mp h)]
    exact hn

theorem mirrors_modify {change : Parser → Parser}
    (h : ∀ p, change (r.parser p) = r.parser (change p)) :
    r.Mirrors id (modify change) (modify change) := by
  intro p
  show EStateM.Result.ok _ (change (r.parser p)) = _
  rw [h]
  rfl

/-! ### Single tokens -/

theorem mirrors_peek : r.Mirrors (Option.map r.token) peek peek := by
  intro p
  show EStateM.Result.ok (p.rest.map r.token).head? (r.parser p) = _
  rw [List.head?_map]
  rfl

theorem mirrors_advance : r.Mirrors (Option.map r.token) advance advance := by
  intro p
  show EStateM.Result.ok (p.rest.map r.token).head?
    { r.parser p with rest := (p.rest.map r.token).tail } = _
  rw [List.head?_map, ← List.map_tail]
  rfl

theorem mirrors_accept {kind : Token.Kind} (hword : ∀ w, kind ≠ .identifier w)
    (hliteral : ∀ l, kind ≠ .value l) : r.Mirrors id (accept kind) (accept kind) := by
  refine mirrors_peek.bind fun t? => ?_
  cases t? with
  | none => exact mirrors_pure false
  | some t =>
    refine mirrors_ite (Token.Kind.respell_eq_iff hword hliteral) ?_ (mirrors_pure false)
    exact mirrors_advance.bind fun _ => mirrors_pure true

theorem rightParen_iff (t : Token) :
    (r.token t).kind = .rightParen ↔ t.kind = .rightParen :=
  Token.Kind.respell_eq_iff (by rintro w ⟨⟩) (by rintro l ⟨⟩)

theorem mirrors_unexpected (expected : Expectation) (t : Token) :
    r.Mirrors f (unexpected expected t) (unexpected expected (r.token t)) :=
  mirrors_throw (.unexpectedToken expected t.kind t.span)

theorem mirrors_expect {expected : Expectation} {select : Token → Option α}
    {select' : Token → Option β} (h : ∀ t, select' (r.token t) = (select t).map f) :
    r.Mirrors f (expect expected select) (expect expected select') := by
  refine mirrors_peek.bind fun t? => ?_
  cases t? with
  | none => exact mirrors_throw (.unexpectedEnd expected)
  | some t =>
    dsimp only [Option.map_some]
    rw [h t]
    cases select t with
    | none => exact mirrors_unexpected expected t
    | some a => exact mirrors_advance.bind fun _ => mirrors_pure a

/-! ### Tests -/

theorem mirrors_fieldText : r.Mirrors id fieldText fieldText := by
  have hcolon : r.Mirrors id
      (expect .colon fun t => if t.kind = .colon then some () else none)
      (expect .colon fun t => if t.kind = .colon then some () else none) := by
    refine mirrors_expect ?_
    rintro ⟨kind, span⟩
    cases kind <;> rfl
  refine hcolon.bind fun _ => mirrors_expect ?_
  rintro ⟨kind, span⟩
  cases kind <;> rfl

theorem mirrors_comparison : r.Mirrors id comparison comparison := by
  refine mirrors_advance.bind fun t? => ?_
  cases t? with
  | none => exact mirrors_throw (.unexpectedEnd .comparison)
  | some t =>
    obtain ⟨kind, span⟩ := t
    cases kind with
    | comparison op => exact mirrors_pure op
    | _ => exact mirrors_unexpected .comparison ⟨_, span⟩

theorem mirrors_dateSpec : r.Mirrors id dateSpec dateSpec := by
  refine Mirrors.bind (f := fun x : String × Span => (r.literal x.1, r.place x.2))
    (mirrors_expect ?_) fun x => ?_
  · rintro ⟨kind, span⟩
    cases kind <;> rfl
  · obtain ⟨literal, span⟩ := x
    dsimp only
    -- Either spelling denotes the same, and only the error shows which one it was.
    rw [r.ofLiteral?_literal]
    cases DateSpec.ofLiteral? literal.toList with
    | some spec => exact mirrors_pure spec
    | none => exact mirrors_throw (.invalidDate literal span)

theorem mirrors_test (k : Keyword) : r.Mirrors id (test k) (test k) := by
  cases k with
  | clean => exact mirrors_pure Atom.clean
  | explicit => exact mirrors_pure Atom.explicit
  | unlabeled => exact mirrors_pure Atom.unlabeled
  | text field => exact mirrors_fieldText.bind fun text => mirrors_pure (Atom.text field text)
  | date field =>
    exact mirrors_comparison.bind fun op =>
      mirrors_dateSpec.bind fun spec => mirrors_pure (Atom.date field op spec)

/-! ### Chains, groups and operands -/

variable {op : Token.Kind} {join : Criteria → Criteria → Criteria} {m : Step Criteria}

theorem mirrors_links (hword : ∀ w, op ≠ .identifier w) (hliteral : ∀ l, op ≠ .value l)
    (hm : r.Mirrors id m m) (bound : Nat) (left : Criteria) :
    r.Mirrors id (links op join m bound left) (links op join m bound left) := by
  induction bound generalizing left with
  | zero => exact mirrors_pure left
  | succ bound ih =>
    refine (mirrors_accept hword hliteral).bind fun accepted => ?_
    cases accepted with
    | true => exact hm.bind fun right => ih (join left right)
    | false => exact mirrors_pure left

theorem mirrors_chain (hword : ∀ w, op ≠ .identifier w) (hliteral : ∀ l, op ≠ .value l)
    (hm : r.Mirrors id m m) : r.Mirrors id (chain op join m) (chain op join m) := by
  refine hm.bind fun left => mirrors_get.bind fun p => ?_
  -- There are as many links to be read as before.
  have hlength : (r.parser p).rest.length = p.rest.length := List.length_map _
  rw [hlength]
  exact mirrors_links hword hliteral hm _ left

theorem mirrors_disjunction (hm : r.Mirrors id m m) :
    r.Mirrors id (disjunction m) (disjunction m) :=
  mirrors_chain (by rintro w ⟨⟩) (by rintro l ⟨⟩)
    (mirrors_chain (by rintro w ⟨⟩) (by rintro l ⟨⟩) hm)

theorem mirrors_group (opening : Span) (hm : r.Mirrors id m m) :
    r.Mirrors id (group opening m) (group (r.place opening) m) := by
  refine (mirrors_modify (by exact fun _ => rfl)).bind fun _ => hm.bind fun e => ?_
  refine mirrors_peek.bind fun t? => ?_
  cases t? with
  | none => exact mirrors_throw (.unclosedParen opening)
  | some t =>
    refine mirrors_ite (rightParen_iff t) ?_ (mirrors_unexpected .closingParen t)
    refine mirrors_advance.bind fun _ => ?_
    exact (mirrors_modify (by exact fun _ => rfl)).bind fun _ => mirrors_pure e

theorem mirrors_primary (hm : r.Mirrors id m m) : r.Mirrors id (primary m) (primary m) := by
  refine mirrors_advance.bind fun t? => ?_
  cases t? with
  | none => exact mirrors_throw (.unexpectedEnd .expression)
  | some t =>
    obtain ⟨kind, span⟩ := t
    -- What is done next depends on the kind, and a respelled token has the same one.
    cases kind with
    | leftParen => exact mirrors_group span hm
    | keyword k => exact (mirrors_test k).bind fun a => mirrors_pure (Formula.atom a)
    | identifier word => exact mirrors_throw (.unknownKeyword word span)
    | rightParen =>
      refine mirrors_get.bind fun p => mirrors_ite Iff.rfl ?_ ?_
      · exact mirrors_throw (.unmatchedParen span)
      · exact mirrors_unexpected .expression ⟨.rightParen, span⟩
    | _ => exact mirrors_unexpected .expression ⟨_, span⟩

theorem mirrors_tooDeep : r.Mirrors id tooDeep tooDeep := by
  refine mirrors_peek.bind fun t? => ?_
  cases t? with
  | some t => exact mirrors_throw (.nestingTooDeep t.span)
  | none =>
    -- This is the one place that is not that of a token.
    have hfront : r.error (.nestingTooDeep ⟨0, 0⟩) = .nestingTooDeep ⟨0, 0⟩ :=
      congrArg SyntaxError.nestingTooDeep r.place_front
    have hthrow := mirrors_throw (r := r) (f := @id Criteria) (.nestingTooDeep ⟨0, 0⟩)
    rwa [hfront] at hthrow

theorem mirrors_enter : r.Mirrors id enter enter :=
  mirrors_modify fun _ => rfl

theorem mirrors_leave : r.Mirrors id leave leave :=
  mirrors_modify fun _ => rfl

theorem mirrors_operand (levels : Nat) : r.Mirrors id (operand levels) (operand levels) := by
  induction levels with
  | zero => exact mirrors_enter.bind fun _ => mirrors_tooDeep
  | succ levels ih =>
    have hleave : ∀ e : Criteria, r.Mirrors id (leave >>= fun _ => pure e)
        (leave >>= fun _ => pure e) := fun e => mirrors_leave.bind fun _ => mirrors_pure e
    refine mirrors_enter.bind fun _ => ?_
    refine (mirrors_accept (by rintro w ⟨⟩) (by rintro l ⟨⟩)).bind fun negated => ?_
    -- Since `!` has one spelling, both runs have accepted it or neither.
    cases negated with
    | true =>
      have hnot : ∀ e : Criteria, r.Mirrors id (pure (Formula.not e) : Step Criteria)
          (pure (Formula.not e)) := fun e => mirrors_pure (Formula.not e)
      exact ih.bind fun e => (hnot e).bind fun e => hleave e
    | false => exact (mirrors_primary (mirrors_disjunction ih)).bind fun e => hleave e

/-! ### Whole expressions -/

theorem mirrors_expression : r.Mirrors id expression expression := by
  refine mirrors_get.bind fun p => ?_
  have hempty : (r.parser p).tokens.isEmpty = true ↔ p.tokens.isEmpty = true := by
    show (p.tokens.map r.token).isEmpty = true ↔ _
    rw [List.isEmpty_map]
  refine mirrors_ite hempty ?_ ?_
  · -- What would follow is not reached.
    exact fun _ => rfl
  · refine (mirrors_disjunction (mirrors_operand _)).bind fun e => mirrors_peek.bind fun t? => ?_
    cases t? with
    | none => exact mirrors_pure e
    | some t =>
      refine mirrors_ite (rightParen_iff t) ?_ ?_
      · exact mirrors_throw (.unmatchedParen t.span)
      · exact mirrors_throw (.trailingInput t.kind t.span)

/-- A parser of respelled tokens answers the same, or with the respelled error, and is left at the
same place. -/
theorem parse_respelled (r : Respelling) (p : Parser) :
    (r.parser p).parse = (p.parse.1.mapError r.error, r.parser p.parse.2) := by
  have h := mirrors_expression (r := r) p
  unfold parse
  cases hp : expression p with
  | ok e q =>
    rw [hp] at h
    rw [h]
    rfl
  | error err q =>
    rw [hp] at h
    rw [h]
    rfl

end Respelling

/-! ### Tokens of a source -/

/-- The criteria that tokens spell, where some of them may be no part of the language. -/
def Criteria.ofTokens (ts : List Token) : Except SyntaxError Criteria := do
  let tokens ← ts.mapM Token.check
  (Parser.ofTokens tokens).parse.1

theorem Criteria.parse_eq_ofTokens (source : String) :
    Criteria.parse source = Criteria.ofTokens (Token.scan source) := rfl

namespace Respelling

variable (r : Respelling)

theorem check_token (t : Token) :
    (r.token t).check = (t.check.map r.token).mapError r.error := by
  obtain ⟨kind, span⟩ := t
  cases kind <;> rfl

theorem mapM_check_map (ts : List Token) :
    (ts.map r.token).mapM Token.check =
      ((ts.mapM Token.check).map (List.map r.token)).mapError r.error := by
  induction ts with
  | nil => rfl
  | cons t ts ih =>
    rw [List.map_cons, List.mapM_cons, List.mapM_cons, r.check_token, ih]
    cases t.check with
    | error err => rfl
    | ok t =>
      cases ts.mapM Token.check with
      | error err => rfl
      | ok ts => rfl

/-- Respelled tokens spell the same criteria, or the error is respelled. -/
theorem ofTokens_map (ts : List Token) :
    Criteria.ofTokens (ts.map r.token) = (Criteria.ofTokens ts).mapError r.error := by
  unfold Criteria.ofTokens
  rw [r.mapM_check_map]
  cases ts.mapM Token.check with
  | error err => rfl
  | ok tokens => exact congrArg Prod.fst (r.parse_respelled (Parser.ofTokens tokens))

end Respelling

end TrackCriteria
