import TrackCriteria.Proofs.Criteria.DateLiteral
import TrackCriteria.Proofs.Parser.Atom

/-!
# Where a parser fails

A step that fails blames its error on the end of the tokens, which came too soon, or on one of the
tokens (`Blame`). What stands before the token that is blamed could still have gone well, and what
stands after it makes no difference. Here this is shown of the steps that read a test
(`test_fails`); steps are put together by `Blame.lift` and `Fails.bind`.
-/

namespace TrackCriteria

/-- Whether an error says that the tokens ended too soon. -/
def SyntaxError.IsAtEnd : SyntaxError → Prop
  | .unexpectedEnd _ => True
  | .unclosedParen _ => True
  | _ => False

namespace Parser

variable {α β : Type} {V W : List Token.Kind → Prop}

/-- What the error of a step is blamed on, where `V` says of the front of some tokens that it can go
on well. -/
inductive Blame (V : List Token.Kind → Prop) (m : Step α) (p : Parser) (err : SyntaxError) : Prop
  /-- The tokens end too soon. -/
  | ending (hend : err.IsAtEnd) (hviable : V (p.rest.map (·.kind)))
  /-- The tokens before `t` can go on well, but no longer with `t`. -/
  | token (pre : List Token) (t : Token) (post : List Token) (hrest : p.rest = pre ++ t :: post)
    (hspan : err.span? = some t.span) (hend : ¬err.IsAtEnd) (hviable : V (pre.map (·.kind)))
    (hsame : ∀ tokens post', ∃ q, m ⟨tokens, pre ++ t :: post', p.depth, p.groups⟩ = .error err q)

/-- Every error of a step but that operands are nested too deep is blamed on the end or a token. -/
def Fails (V : List Token.Kind → Prop) (m : Step α) : Prop :=
  ∀ p err q, m p = .error err q → (∀ span, err ≠ .nestingTooDeep span) → Blame V m p err

/-- The error of a step inside of another one, which has passed some tokens before. -/
theorem Blame.lift {m : Step α} {m' : Step β} {p p' : Parser} {err : SyntaxError}
    (h : Blame V m p err) (front : List Token) (hrest : p'.rest = front ++ p.rest)
    (hV : ∀ ks, V ks → W (front.map (·.kind) ++ ks))
    (hstep : ∀ tokens rest q, rest.head? = p.rest.head? →
      m ⟨tokens, rest, p.depth, p.groups⟩ = .error err q →
        ∃ q', m' ⟨tokens, front ++ rest, p'.depth, p'.groups⟩ = .error err q') :
    Blame W m' p' err := by
  cases h with
  | ending hend hviable =>
    refine .ending hend ?_
    rw [hrest, List.map_append]
    exact hV _ hviable
  -- The same token is blamed. What stands in front of it grows by what has been passed.
  | token pre t post hpre hspan hend hviable hsame =>
    refine .token (front ++ pre) t post ?_ hspan hend ?_ fun tokens post' => ?_
    · rw [hrest, hpre, List.append_assoc]
    · rw [List.map_append]
      exact hV _ hviable
    · obtain ⟨q, herror⟩ := hsame tokens post'
      rw [List.append_assoc]
      refine hstep tokens _ q ?_ herror
      rw [hpre]
      cases pre <;> rfl

theorem Fails.mono {m : Step α} (h : Fails V m) (hV : ∀ ks, V ks → W ks) : Fails W m := by
  intro p err q herror hnesting
  refine (h p err q herror hnesting).lift [] rfl hV fun tokens rest q' _ herror' => ?_
  exact ⟨q', herror'⟩

/-! ### Sequences of steps -/

theorem bind_eq_error {m : Step α} {f : α → Step β} {p q : Parser} {err : SyntaxError} :
    (m >>= f) p = .error err q ↔
      m p = .error err q ∨ ∃ a p', m p = .ok a p' ∧ f a p' = .error err q := by
  cases h : m p with
  | ok a p' =>
    rw [bind_ok h]
    constructor
    · intro hf
      exact .inr ⟨a, p', rfl, hf⟩
    · rintro (⟨⟨⟩⟩ | ⟨a', p'', heq, hf⟩)
      cases heq
      exact hf
  | error err' p' =>
    rw [bind_error h]
    constructor
    · rintro ⟨⟩
      exact .inl rfl
    · rintro (⟨⟨⟩⟩ | ⟨a', p'', ⟨⟩, -⟩)
      rfl

theorem pure_fails (a : α) : Fails V (pure a) := by
  rintro p err q ⟨⟩

/-- A step that succeeds has passed some tokens, and does so wherever the same tokens and the same
one after them are found. -/
def Passes (m : Step α) (p : Parser) (a : α) (q : Parser) (ts : List Token) : Prop :=
  p.rest = ts ++ q.rest ∧ ∀ tokens rest, rest.head? = q.rest.head? →
    m ⟨tokens, ts ++ rest, p.depth, p.groups⟩ = .ok a ⟨tokens, rest, q.depth, q.groups⟩

/-- Either the first step of a sequence fails, or the others do after what it passes. -/
theorem Fails.bind {m : Step α} {f : α → Step β} (hm : Fails W m)
    (hf : ∀ p a q, m p = .ok a q → ∃ ts, Passes m p a q ts ∧
      Fails (fun ks => W (ts.map (·.kind) ++ ks)) (f a)) : Fails W (m >>= f) := by
  intro p err q h hnesting
  rcases bind_eq_error.mp h with herror | ⟨a, p', hok, herror⟩
  · refine (hm p err q herror hnesting).lift [] rfl (fun _ hV => hV) ?_
    intro tokens rest q' _ herror'
    exact ⟨q', bind_error herror'⟩
  · obtain ⟨ts, ⟨hrest, hpasses⟩, hfails⟩ := hf p a p' hok
    refine (hfails p' err q herror hnesting).lift ts hrest (fun _ hV => hV) ?_
    intro tokens rest q' hhead herror'
    exact ⟨q', (bind_ok (hpasses tokens rest hhead)).trans herror'⟩

/-- If only the first step of a sequence can fail, its errors are those of the sequence. -/
theorem Fails.bind_of_ne_error {m : Step α} {f : α → Step β} (hm : Fails V m)
    (hf : ∀ a p err q, f a p ≠ .error err q) : Fails V (m >>= f) := by
  intro p err q h hnesting
  rcases bind_eq_error.mp h with herror | ⟨a, p', -, herror⟩
  · refine (hm p err q herror hnesting).lift [] rfl (fun _ hV => hV) ?_
    intro tokens rest q' _ herror'
    exact ⟨q', bind_error herror'⟩
  · exact absurd herror (hf a p' err q)

/-! ### Single tokens -/

variable {expected : Expectation} {select : Token → Option α}

theorem expect_fails (hV : V []) : Fails V (expect expected select) := by
  rintro ⟨tokens, rest, depth, groups⟩ err q h -
  cases rest with
  | nil =>
    cases h
    exact .ending trivial hV
  | cons t rest =>
    cases hselect : select t with
    | some a =>
      rw [expect_eq_ok.mpr ⟨t, rest, rfl, hselect, rfl⟩] at h
      cases h
    -- A token that is not let through stays where it is, and is blamed itself.
    | none =>
      have hexpect : ∀ tokens rest, expect expected select ⟨tokens, t :: rest, depth, groups⟩ =
          unexpected expected t ⟨tokens, t :: rest, depth, groups⟩ := by
        intro tokens rest
        have hpeek : peek ⟨tokens, t :: rest, depth, groups⟩ =
            .ok (some t) ⟨tokens, t :: rest, depth, groups⟩ := rfl
        rw [expect, bind_ok hpeek]
        dsimp only
        rw [hselect]
      rw [hexpect] at h
      cases h
      refine .token [] t rest rfl rfl id hV fun tokens post => ?_
      rw [List.nil_append, hexpect]
      exact ⟨_, rfl⟩

/-- A token that is passed once is passed wherever it comes next. -/
theorem exists_of_expect_eq_ok {p q : Parser} {a : α} (h : expect expected select p = .ok a q) :
    ∃ t, p.rest = t :: q.rest ∧ select t = some a ∧ ∀ tokens rest,
      expect expected select ⟨tokens, t :: rest, p.depth, p.groups⟩ =
        .ok a ⟨tokens, rest, q.depth, q.groups⟩ := by
  obtain ⟨t, rest, hrest, hselect, rfl⟩ := expect_eq_ok.mp h
  exact ⟨t, hrest, hselect, fun tokens rest' => expect_eq_ok.mpr ⟨t, rest', rfl, hselect, rfl⟩⟩

/-! ### Tests -/

theorem fieldText_fails (hV : V []) (hcolon : V [.colon]) : Fails V fieldText := by
  refine Fails.bind (expect_fails hV) fun p a q h => ?_
  obtain ⟨t, hrest, hselect, hpass⟩ := exists_of_expect_eq_ok h
  refine ⟨[t], ⟨hrest, fun tokens rest _ => hpass tokens rest⟩, expect_fails ?_⟩
  have hkind : t.kind = .colon := by
    by_contra hne
    rw [if_neg hne] at hselect
    cases hselect
  rw [List.map_singleton, hkind]
  exact hcolon

theorem comparison_fails (hV : V []) : Fails V comparison := by
  rintro ⟨tokens, rest, depth, groups⟩ err q h -
  cases rest with
  | nil =>
    cases h
    exact .ending trivial hV
  | cons t rest =>
    obtain ⟨kind, span⟩ := t
    -- Anything but an operator is blamed as the first token.
    cases kind with
    | comparison op => cases h
    | _ =>
      cases h
      exact .token [] _ rest rfl rfl id hV fun tokens post => ⟨_, rfl⟩

theorem dateSpec_fails (hV : V []) : Fails V dateSpec := by
  rintro p err q h hnesting
  rcases bind_eq_error.mp h with herror | ⟨⟨literal, span⟩, p', hok, herror⟩
  · refine (expect_fails hV p err q herror hnesting).lift [] rfl (fun _ hV => hV) ?_
    intro tokens rest q' _ herror'
    exact ⟨q', bind_error herror'⟩
  · -- The value has been passed by now, but it is the token that is blamed.
    obtain ⟨t, hrest, hselect, hpass⟩ := exists_of_expect_eq_ok hok
    have hspan : t.span = span := by
      split at hselect
      · cases hselect
        rfl
      · cases hselect
    dsimp only at herror
    cases hliteral : DateSpec.ofLiteral? literal.toList with
    | some spec =>
      rw [hliteral] at herror
      cases herror
    | none =>
      rw [hliteral] at herror
      cases herror
      refine .token [] t _ hrest (congrArg some hspan.symm) id hV fun tokens post => ?_
      refine ⟨⟨tokens, post, q.depth, q.groups⟩, (bind_ok (hpass tokens post)).trans ?_⟩
      dsimp only
      rw [hliteral]
      rfl

theorem comparison_passes {p q : Parser} {op : Comparison} (h : comparison p = .ok op q) :
    ∃ t, t.kind = .comparison op ∧ Passes comparison p op q [t] := by
  obtain ⟨t, rest, hrest, hkind, rfl⟩ := comparison_eq_ok.mp h
  refine ⟨t, hkind, hrest, fun tokens rest' _ => ?_⟩
  exact comparison_eq_ok.mpr ⟨t, rest', rfl, hkind, rfl⟩

/-- A literal that denotes a date. -/
theorem exists_literal : ∃ (literal : String) (value : DateSpec),
    DateSpec.ofLiteral? literal.toList = some value :=
  ⟨(DateSpec.age 0 .day).canonical, _, DateSpec.ofLiteral?_canonical_age 0 .day⟩

/-- Whether tokens after a keyword can be completed to a test. -/
def ViableTest (k : Keyword) (ks : List Token.Kind) : Prop :=
  ∃ more a, Spells (.keyword k :: (ks ++ more)) a

theorem test_fails (k : Keyword) : Fails (ViableTest k) (test k) := by
  cases k with
  | clean => exact pure_fails _
  | explicit => exact pure_fails _
  | unlabeled => exact pure_fails _
  | text field =>
    -- A colon may be missing, or the string behind it.
    refine Fails.bind_of_ne_error (fieldText_fails ?_ ?_) (by rintro a p err q ⟨⟩)
    · exact ⟨[.colon, .string ""], _, .text field ""⟩
    · exact ⟨[.string ""], _, .text field ""⟩
  | date field =>
    -- An operator may be missing, or the literal of a date behind it.
    obtain ⟨literal, value, hliteral⟩ := exists_literal
    refine Fails.bind (comparison_fails ?_) fun p op q h => ?_
    · exact ⟨[.comparison .eq, .value literal], _, .date field .eq hliteral⟩
    · obtain ⟨t, hkind, hpasses⟩ := comparison_passes h
      refine ⟨[t], hpasses, Fails.bind_of_ne_error (dateSpec_fails ?_) (by rintro a p err q ⟨⟩)⟩
      rw [List.map_singleton, hkind]
      exact ⟨[.value literal], _, .date field op hliteral⟩

end Parser

end TrackCriteria
