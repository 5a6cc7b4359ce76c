import TrackCriteria.Proofs.Parser.Blame
import TrackCriteria.Proofs.Parser.Source

/-!
# What errors are about

The place that an error names is that of a token, and the error says what the token is
(`SyntaxError.IsAbout`). No step of a parser makes up a token (`operand_cites`), so an error is
about one of those that the parser has been given (`parse_cites`). There is one exception: at the
end of the tokens, operands that are nested too deep are about no token at all.
-/

namespace TrackCriteria

/-! ### Errors and tokens -/

/-- The kind of the token that an error is about, as far as the error tells. -/
def SyntaxError.kind? : SyntaxError → Option Token.Kind
  | .unterminatedString _ => some .unterminatedString
  | .illegalCharacter c _ => some (.illegal c)
  | .unknownKeyword word _ => some (.identifier word)
  | .unexpectedToken _ found _ => some found
  | .unclosedParen _ => some .leftParen
  | .unmatchedParen _ => some .rightParen
  | .trailingInput found _ => some found
  | .invalidDate literal _ => some (.value literal)
  | .empty | .unexpectedEnd _ | .nestingTooDeep _ => none

/-- Whether an error is about a token. -/
structure SyntaxError.IsAbout (err : SyntaxError) (t : Token) : Prop where
  span_eq : err.span? = some t.span
  kind_eq : ∀ kind ∈ err.kind?, t.kind = kind

theorem SyntaxError.IsAbout.of_kind {err : SyntaxError} {t : Token}
    (hspan : err.span? = some t.span) (hkind : err.kind? = some t.kind) : err.IsAbout t :=
  ⟨hspan, fun _ h => Option.some.inj (hkind.symm.trans h)⟩

/-- The error that a token is if it is no part of the language is about the token. -/
theorem Token.isAbout_of_check {t : Token} {err : SyntaxError} (h : t.check = .error err) :
    err.IsAbout t := by
  obtain ⟨kind, span⟩ := t
  unfold Token.check at h
  cases kind with
  | unterminatedString =>
    cases h
    exact .of_kind rfl rfl
  | illegal c =>
    cases h
    exact .of_kind rfl rfl
  | _ => cases h

theorem exists_isAbout_of_mapM_check {ts : List Token} {err : SyntaxError}
    (h : ts.mapM Token.check = .error err) : ∃ t ∈ ts, err.IsAbout t := by
  induction ts with
  | nil => cases h
  | cons t ts ih =>
    rw [List.mapM_cons] at h
    -- The error is that of the first token that does not pass the check.
    cases hcheck : t.check with
    | error err' =>
      rw [hcheck] at h
      cases h
      exact ⟨t, List.mem_cons_self, t.isAbout_of_check hcheck⟩
    | ok t' =>
      cases hrest : ts.mapM Token.check with
      | ok ts' =>
        rw [hcheck, hrest] at h
        cases h
      | error err' =>
        rw [hcheck, hrest] at h
        cases h
        obtain ⟨u, hu, habout⟩ := ih hrest
        exact ⟨u, List.mem_cons_of_mem t hu, habout⟩

namespace Parser

variable {α β : Type} {ts : List Token} {Q R : α → Prop}

/-! ### Sequences of steps -/

/-- Whether an error of a parser that is left as `q` is about one of its tokens, if it has a place.
An error past the last token may stand at the front of the source instead. -/
def IsCited (ts : List Token) (err : SyntaxError) (q : Parser) : Prop :=
  err.span? = none ∨ (∃ t ∈ ts, err.IsAbout t) ∨ err = .nestingTooDeep ⟨0, 0⟩ ∧ q.rest = []

/-- A step goes on in the tokens `ts` that a parser reads, with a value for which `Q` holds, or its
error is about one of them. -/
def Cites (ts : List Token) (m : Step α) (Q : α → Prop) : Prop :=
  ∀ p, p.rest <:+ ts →
    (∀ a q, m p = .ok a q → Q a ∧ q.rest <:+ ts) ∧ ∀ err q, m p = .error err q → IsCited ts err q

theorem Cites.bind {m : Step α} {f : α → Step β} {Q : β → Prop} (hm : Cites ts m R)
    (hf : ∀ a, R a → Cites ts (f a) Q) : Cites ts (m >>= f) Q := by
  intro p hp
  obtain ⟨hok, herror⟩ := hm p hp
  constructor
  · intro b q h
    obtain ⟨a, p', hma, hfa⟩ := bind_eq_ok.mp h
    obtain ⟨ha, hp'⟩ := hok a p' hma
    exact (hf a ha p' hp').1 b q hfa
  · -- Either the first step fails, or the second one does with a value of the first.
    intro err q h
    rcases bind_eq_error.mp h with hma | ⟨a, p', hma, hfa⟩
    · exact herror err q hma
    · obtain ⟨ha, hp'⟩ := hok a p' hma
      exact (hf a ha p' hp').2 err q hfa

theorem Cites.mono {m : Step α} (hm : Cites ts m R) (h : ∀ a, R a → Q a) : Cites ts m Q := by
  intro p hp
  obtain ⟨hok, herror⟩ := hm p hp
  refine ⟨fun a q hma => ?_, herror⟩
  obtain ⟨ha, hq⟩ := hok a q hma
  exact ⟨h a ha, hq⟩

theorem pure_cites {a : α} (h : Q a) : Cites ts (pure a) Q := by
  intro p hp
  constructor
  · rintro a q ⟨⟩
    exact ⟨h, hp⟩
  · rintro err q ⟨⟩

theorem get_cites : Cites ts get fun _ => True := by
  intro p hp
  constructor
  · rintro a q ⟨⟩
    exact ⟨trivial, hp⟩
  · rintro err q ⟨⟩

/-- A step that only keeps the books. -/
theorem modify_cites {f : Parser → Parser} (h : ∀ p, (f p).rest = p.rest) :
    Cites ts (modify f) fun _ => True := by
  intro p hp
  constructor
  · rintro a q ⟨⟩
    refine ⟨trivial, ?_⟩
    rwa [h]
  · rintro err q ⟨⟩

theorem throw_cites {err : SyntaxError} (h : ∀ q, IsCited ts err q) :
    Cites ts (throw err) Q := by
  intro p hp
  constructor
  · rintro a q ⟨⟩
  · rintro err q ⟨⟩
    exact h _

theorem throw_unexpectedEnd_cites (expected : Expectation) :
    Cites ts (throw (.unexpectedEnd expected)) Q :=
  throw_cites fun _ => .inl rfl

theorem throw_about_cites {err : SyntaxError} {t : Token} (ht : t ∈ ts)
    (hspan : err.span? = some t.span) (hkind : err.kind? = some t.kind) :
    Cites ts (throw err) Q :=
  throw_cites fun _ => .inr (.inl ⟨t, ht, .of_kind hspan hkind⟩)

/-! ### Single tokens -/

theorem peek_cites : Cites ts peek fun t? => ∀ t ∈ t?, t ∈ ts := by
  intro p hp
  constructor
  · rintro t? q ⟨⟩
    exact ⟨fun t ht => hp.mem (List.mem_of_mem_head? ht), hp⟩
  · rintro err q ⟨⟩

theorem advance_cites : Cites ts advance fun t? => ∀ t ∈ t?, t ∈ ts := by
  intro p hp
  constructor
  · rintro t? q ⟨⟩
    exact ⟨fun t ht => hp.mem (List.mem_of_mem_head? ht), (List.tail_suffix _).trans hp⟩
  · rintro err q ⟨⟩

theorem accept_cites (kind : Token.Kind) : Cites ts (accept kind) fun _ => True := by
  refine peek_cites.bind fun t? ht? => ?_
  cases t? with
  | none => exact pure_cites trivial
  | some t =>
    dsimp only
    split
    · exact advance_cites.bind fun _ _ => pure_cites trivial
    · exact pure_cites trivial

theorem unexpected_cites {t : Token} (expected : Expectation) (ht : t ∈ ts) :
    Cites ts (unexpected expected t) Q :=
  throw_about_cites ht rfl rfl

theorem expect_cites (expected : Expectation) (select : Token → Option α) :
    Cites ts (expect expected select) fun a => ∃ t ∈ ts, select t = some a := by
  refine peek_cites.bind fun t? ht? => ?_
  cases t? with
  | none => exact throw_unexpectedEnd_cites expected
  | some t =>
    dsimp only
    split
    · next a hselect =>
      exact advance_cites.bind fun _ _ => pure_cites ⟨t, ht? t rfl, hselect⟩
    · exact unexpected_cites expected (ht? t rfl)

/-! ### Tests -/

theorem fieldText_cites : Cites ts fieldText fun _ => True := by
  refine (expect_cites _ _).bind fun _ _ => ?_
  exact (expect_cites _ _).mono fun _ _ => trivial

theorem comparison_cites : Cites ts comparison fun _ => True := by
  refine advance_cites.bind fun t? ht? => ?_
  cases t? with
  | none => exact throw_unexpectedEnd_cites _
  | some t =>
    dsimp only
    split
    · exact pure_cites trivial
    · exact unexpected_cites _ (ht? t rfl)

theorem dateSpec_cites : Cites ts dateSpec fun _ => True := by
  refine (expect_cites _ _).bind fun ⟨literal, span⟩ ⟨t, ht, hselect⟩ => ?_
  dsimp only
  split
  · exact pure_cites trivial
  · -- What has been passed is the token that the literal was read from.
    split at hselect
    · next hkind =>
      cases hselect
      exact throw_about_cites ht rfl (congrArg some hkind.symm)
    · cases hselect

theorem test_cites (k : Keyword) : Cites ts (test k) fun _ => True := by
  cases k with
  | clean => exact pure_cites trivial
  | explicit => exact pure_cites trivial
  | unlabeled => exact pure_cites trivial
  | text field => exact fieldText_cites.bind fun _ _ => pure_cites trivial
  | date field =>
    exact comparison_cites.bind fun _ _ => dateSpec_cites.bind fun _ _ => pure_cites trivial

/-! ### Chains, groups and operands -/

variable {op : Token.Kind} {join : Criteria → Criteria → Criteria} {m : Step Criteria}

theorem links_cites (hm : Cites ts m fun _ => True) (bound : Nat) (left : Criteria) :
    Cites ts (links op join m bound left) fun _ => True := by
  induction bound generalizing left with
  | zero => exact pure_cites trivial
  | succ bound ih =>
    refine (accept_cites op).bind fun accepted _ => ?_
    cases accepted with
    | true => exact hm.bind fun right _ => ih (join left right)
    | false => exact pure_cites trivial

theorem chain_cites (hm : Cites ts m fun _ => True) :
    Cites ts (chain op join m) fun _ => True :=
  hm.bind fun left _ => get_cites.bind fun _ _ => links_cites hm _ left

theorem disjunction_cites (hm : Cites ts m fun _ => True) :
    Cites ts (disjunction m) fun _ => True :=
  chain_cites (chain_cites hm)

theorem group_cites {t : Token} (ht : t ∈ ts) (hkind : t.kind = .leftParen)
    (hm : Cites ts m fun _ => True) : Cites ts (group t.span m) fun _ => True := by
  refine (modify_cites (by exact fun _ => rfl)).bind fun _ _ => hm.bind fun e _ => ?_
  refine peek_cites.bind fun t? ht? => ?_
  cases t? with
  | none =>
    -- The error is about the parenthesis that has been passed before the expression.
    exact throw_about_cites ht rfl (congrArg some hkind.symm)
  | some u =>
    dsimp only
    split
    · refine advance_cites.bind fun _ _ => ?_
      exact (modify_cites (by exact fun _ => rfl)).bind fun _ _ => pure_cites trivial
    · exact unexpected_cites _ (ht? u rfl)

theorem primary_cites (hm : Cites ts m fun _ => True) :
    Cites ts (primary m) fun _ => True := by
  refine advance_cites.bind fun t? ht? => ?_
  cases t? with
  | none => exact throw_unexpectedEnd_cites _
  | some t =>
    -- A group, a test, or one of the tokens that no expression starts with.
    have ht := ht? t rfl
    dsimp only
    split
    · next hkind => exact group_cites ht hkind hm
    · next k hkind => exact (test_cites k).bind fun _ _ => pure_cites trivial
    · next word hkind =>
      exact throw_about_cites ht rfl (congrArg some hkind.symm)
    · next hkind =>
      refine get_cites.bind fun p _ => ?_
      split
      · exact throw_about_cites ht rfl (congrArg some hkind.symm)
      · exact unexpected_cites _ ht
    · exact unexpected_cites _ ht

theorem tooDeep_cites : Cites ts tooDeep fun _ => True := by
  rintro ⟨tokens, rest, depth, groups⟩ hp
  cases rest with
  | nil =>
    -- There is no token left, and the error has the place at the very front.
    constructor
    · rintro e q ⟨⟩
    · rintro err q ⟨⟩
      exact .inr (.inr ⟨rfl, rfl⟩)
  | cons t rest =>
    constructor
    · rintro e q ⟨⟩
    · rintro err q ⟨⟩
      exact .inr (.inl ⟨t, hp.mem List.mem_cons_self, rfl, by rintro kind ⟨⟩⟩)

theorem enter_cites : Cites ts enter fun _ => True :=
  modify_cites fun _ => rfl

theorem leave_cites : Cites ts leave fun _ => True :=
  modify_cites fun _ => rfl

/-- However many levels are left, the errors of an operand are about the tokens it is read from. -/
theorem operand_cites (levels : Nat) : Cites ts (operand levels) fun _ => True := by
  -- The levels that are left bound the recursion, and the last one is where nesting is too deep.
  induction levels with
  | zero => exact enter_cites.bind fun _ _ => tooDeep_cites
  | succ levels ih =>
    have hleave : ∀ e : Criteria, Cites ts (leave >>= fun _ => pure e) fun _ => True :=
      fun e => leave_cites.bind fun _ _ => pure_cites trivial
    refine enter_cites.bind fun _ _ => (accept_cites .not).bind fun negated _ => ?_
    cases negated with
    | true =>
      have hnot : ∀ e : Criteria, Cites ts (pure (Formula.not e) : Step Criteria) fun _ => True :=
        fun e => pure_cites trivial
      exact ih.bind fun e _ => (hnot e).bind fun e _ => hleave e
    | false => exact (primary_cites (disjunction_cites ih)).bind fun e _ => hleave e

/-! ### Whole expressions -/

theorem expression_cites : Cites ts expression fun _ => True := by
  refine get_cites.bind fun p _ => ?_
  dsimp only
  split
  · refine throw_cites ?_
    exact fun _ => .inl rfl
  · refine (disjunction_cites (operand_cites _)).bind fun e _ => peek_cites.bind fun t? ht? => ?_
    -- A token that is left behind the expression is an error, whatever it is.
    cases t? with
    | none => exact pure_cites trivial
    | some t =>
      have ht := ht? t rfl
      dsimp only
      split
      · next hkind => exact throw_about_cites ht rfl (congrArg some hkind.symm)
      · exact throw_about_cites ht rfl rfl

/-- The error of a parser is about one of the tokens that it has been given. -/
theorem parse_cites {err : SyntaxError} (h : (ofTokens ts).parse.1 = .error err) :
    IsCited ts err (ofTokens ts).parse.2 := by
  unfold parse at h ⊢
  split at h
  · cases h
  · next err' q hexpression =>
    cases h
    exact (expression_cites _ (List.suffix_refl _)).2 _ _ hexpression

end Parser

/-! ### Sources -/

/-- An error is about a token of the source, if it has a place. Only past the last token it may
stand at the front of the source instead. -/
theorem Criteria.isCited_of_parse_eq_error {source : String} {err : SyntaxError}
    (h : Criteria.parse source = .error err) :
    Parser.IsCited (Token.scan source) err (Parser.ofTokens (Token.scan source)).parse.2 := by
  cases htokens : tokenize source with
  | error err' =>
    rw [Criteria.parse, htokens] at h
    cases h
    exact .inr (.inl (exists_isAbout_of_mapM_check htokens))
  | ok tokens =>
    rw [parse_of_tokenize htokens] at h
    obtain ⟨rfl, -⟩ := tokenize_eq_ok.mp htokens
    exact Parser.parse_cites h

end TrackCriteria
