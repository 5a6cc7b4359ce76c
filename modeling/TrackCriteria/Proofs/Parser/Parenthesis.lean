import TrackCriteria.Proofs.Parser.Break
import TrackCriteria.Proofs.Token.Span

/-!
# Errors about parentheses

A parser counts the parentheses that it is inside of, and reports the innermost cause of an error.
Here it is shown that what it says about a parenthesis is true of all tokens of the source
(`Criteria.parse_eq_error_paren`): one that is said to be unmatched closes nothing, one that is said
to be unclosed is the last that is never closed, and where a closing one comes too early, there is
one to be closed.
-/

namespace TrackCriteria

/-- Whether `t` is the one token at a place, with `pre` in front of it and `post` behind it. -/
structure IsAt (tokens : List Token) (span : Span) (pre : List Token) (t : Token)
    (post : List Token) : Prop where
  tokens_eq : tokens = pre ++ t :: post
  span_eq : t.span = span
  span_ne : ∀ u ∈ pre ++ post, u.span ≠ span

namespace Parser

variable {n : Nat} {p q : Parser} {err : SyntaxError} {span : Span}

/-! ### Where an operand breaks off -/

/-- An operand breaks off at a parenthesis that is unmatched only if it stands in no group, and
behind tokens that are balanced. -/
theorem BreaksOff.unmatchedParen (h : BreaksOff n p err q) (herr : err = .unmatchedParen span) :
    p.groups = 0 ∧ ∃ pre t post, p.rest = pre ++ t :: post ∧ t.span = span ∧
      t.kind = .rightParen ∧ IsBalanced (pre.map (·.kind)) := by
  -- Inside of a group the parenthesis would be unexpected, so there are only negations on the way.
  induction h with
  | tooDeep => cases herr
  | @negated _ _ _ _ _ t _ _ hkind _ ih =>
    obtain ⟨hgroups, pre, u, post, hrest, hspan, hright, hpre⟩ := ih herr
    refine ⟨hgroups, t :: pre, u, post, congrArg (t :: ·) hrest, hspan, hright, ?_⟩
    rw [List.map_cons, hkind]
    exact hpre.cons (by rintro ⟨⟩) (by rintro ⟨⟩)
  | inside _ _ _ ih => exact absurd (ih herr).1 (Nat.succ_ne_zero _)
  | unclosed => cases herr
  | interrupted => cases herr
  | @closing _ _ rest _ _ t hkind =>
    split at herr
    · next hgroups =>
      cases herr
      exact ⟨hgroups, [], t, rest, rfl, rfl, hkind, isBalanced_nil⟩
    · cases herr
  | plain _ hplain =>
    rw [herr] at hplain
    exact hplain.elim

/-- An operand breaks off at a parenthesis that is unclosed only if all tokens behind it are
balanced. -/
theorem BreaksOff.unclosedParen (h : BreaksOff n p err q) (herr : err = .unclosedParen span) :
    ∃ pre t post, p.rest = pre ++ t :: post ∧ t.span = span ∧ t.kind = .leftParen ∧
      IsBalanced (post.map (·.kind)) := by
  -- The group that is blamed is the innermost one, which is complete but for its end.
  induction h with
  | tooDeep => cases herr
  | @negated _ _ _ _ _ t _ _ _ _ ih =>
    obtain ⟨pre, u, post, hrest, hu⟩ := ih herr
    exact ⟨t :: pre, u, post, congrArg (t :: ·) hrest, hu⟩
  | @inside _ _ front _ _ _ t _ _ _ _ _ ih =>
    obtain ⟨pre, u, post, hrest, hu⟩ := ih herr
    refine ⟨t :: (front ++ pre), u, post, ?_, hu⟩
    dsimp only at hrest ⊢
    rw [hrest, List.cons_append, List.append_assoc]
  | @unclosed _ _ inner _ _ t hkind hinner =>
    cases herr
    exact ⟨[], t, inner, rfl, rfl, hkind, hinner⟩
  | interrupted => cases herr
  | closing => split at herr <;> cases herr
  | plain _ hplain =>
    rw [herr] at hplain
    exact hplain.elim

/-- An operand breaks off at a parenthesis that comes too early only if there is an open one: the
operand stands in a group, or it has opened one itself. -/
theorem BreaksOff.unexpectedParen (h : BreaksOff n p err q)
    (herr : err = .unexpectedToken .expression .rightParen span) :
    ∃ pre t post, p.rest = pre ++ t :: post ∧ t.span = span ∧ t.kind = .rightParen ∧
      ClosesOwn (pre.map (·.kind)) ∧ (p.groups ≠ 0 ∨ ∃ before u after, pre = before ++ u :: after ∧
        u.kind = .leftParen ∧ ClosesOwn (after.map (·.kind))) := by
  induction h with
  | tooDeep => cases herr
  | @negated _ _ _ _ _ t _ _ hkind _ ih =>
    obtain ⟨pre, u, post, hrest, hspan, hright, hpre, hopen⟩ := ih herr
    refine ⟨t :: pre, u, post, congrArg (t :: ·) hrest, hspan, hright, ?_, ?_⟩
    · rw [List.map_cons, hkind]
      exact hpre.cons (by rintro ⟨⟩)
    · rcases hopen with hgroups | ⟨before, v, after, rfl, hv⟩
      · exact .inl hgroups
      · exact .inr ⟨t :: before, v, after, rfl, hv⟩
  | @inside _ _ front _ _ _ t _ _ hkind hfront _ ih =>
    -- The parenthesis that has been passed here is open all the way to the error.
    obtain ⟨pre, u, post, hrest, hspan, hright, hpre, -⟩ := ih herr
    have hinner : ClosesOwn ((front ++ pre).map (·.kind)) := by
      rw [List.map_append]
      exact hfront.closesOwn.append hpre
    refine ⟨t :: (front ++ pre), u, post, ?_, hspan, hright, ?_, ?_⟩
    · dsimp only at hrest ⊢
      rw [hrest, List.cons_append, List.append_assoc]
    · rw [List.map_cons, hkind]
      exact hinner.cons (by rintro ⟨⟩)
    · exact .inr ⟨[], t, front ++ pre, rfl, hkind, hinner⟩
  | unclosed => cases herr
  | interrupted => cases herr
  | @closing _ _ rest _ _ t hkind =>
    split at herr
    · cases herr
    · next hgroups =>
      rw [hkind] at herr
      cases herr
      exact ⟨[], t, rest, rfl, rfl, hkind, isBalanced_nil.closesOwn, .inl hgroups⟩
  | plain _ hplain =>
    rw [herr] at hplain
    exact absurd rfl (hplain rfl)

/-! ### Calls -/

variable {tokens : List Token}

theorem exists_unmatched (h : (ofTokens tokens).parse.1 = .error (.unmatchedParen span)) :
    ∃ pre t post, tokens = pre ++ t :: post ∧ t.span = span ∧ t.kind = .rightParen ∧
      IsBalanced (pre.map (·.kind)) := by
  rcases parse_error h with ⟨⟨ts, t, rest, d, e, hrest, hspan, hkind, hderives⟩, -⟩ |
    ⟨-, front, rest, hrest, hfront, hoff⟩
  · exact ⟨ts, t, rest, hrest, hspan, hkind, hderives.isBalanced⟩
  · obtain ⟨-, pre, t, post, rfl, hspan, hkind, hpre⟩ := hoff.unmatchedParen rfl
    refine ⟨front ++ pre, t, post, ?_, hspan, hkind, ?_⟩
    · rw [List.append_assoc]
      exact hrest
    · rw [List.map_append]
      exact hfront.append hpre

theorem exists_unclosed (h : (ofTokens tokens).parse.1 = .error (.unclosedParen span)) :
    ∃ pre t post, tokens = pre ++ t :: post ∧ t.span = span ∧ t.kind = .leftParen ∧
      IsBalanced (post.map (·.kind)) := by
  rcases parse_error h with ⟨⟨⟩, -⟩ | ⟨-, front, rest, hrest, -, hoff⟩
  obtain ⟨pre, t, post, rfl, ht⟩ := hoff.unclosedParen rfl
  refine ⟨front ++ pre, t, post, ?_, ht⟩
  rw [List.append_assoc]
  exact hrest

theorem exists_unexpected
    (h : (ofTokens tokens).parse.1 = .error (.unexpectedToken .expression .rightParen span)) :
    ∃ pre t post, tokens = pre ++ t :: post ∧ t.span = span ∧ t.kind = .rightParen ∧
      ∃ before u after, pre = before ++ u :: after ∧ u.kind = .leftParen ∧
        ClosesOwn (after.map (·.kind)) := by
  rcases parse_error h with ⟨⟨⟩, -⟩ | ⟨-, front, rest, hrest, -, hoff⟩
  obtain ⟨pre, t, post, rfl, hspan, hkind, -, hgroups | ⟨before, u, after, rfl, hu⟩⟩ :=
    hoff.unexpectedParen rfl
  · exact absurd rfl hgroups
  · refine ⟨front ++ (before ++ u :: after), t, post, ?_, hspan, hkind, front ++ before, u, after,
      ?_, hu⟩
    · rw [List.append_assoc]
      exact hrest
    · rw [List.append_assoc]

end Parser

/-! ### Sources -/

/-- A token of a source is the one at its place. -/
theorem isAt_of_tokenize {source : String} {tokens pre post : List Token} {t : Token} {span : Span}
    (htokens : tokenize source = .ok tokens) (htoken : tokens = pre ++ t :: post)
    (hspan : t.span = span) : IsAt tokens span pre t post := by
  refine ⟨htoken, hspan, ?_⟩
  rw [← hspan]
  exact Token.span_ne_of_scan ((tokenize_eq_ok.mp htokens).1.trans htoken)

/-- **What is said about a parenthesis is true.** One that is unmatched is a closing one behind
tokens that are balanced, and closes none of the parentheses among them. One that is unclosed is an
opening one that is not closed by any later token, and it is the last of these: all tokens behind it
are balanced, so each parenthesis that is opened there is closed. Where a closing one is found in
place of an expression, some parenthesis in front of it has not been closed. -/
theorem Criteria.parse_eq_error_paren {source : String} {tokens : List Token}
    (htokens : tokenize source = .ok tokens) (span : Span) :
    (Criteria.parse source = .error (.unmatchedParen span) →
      ∃ pre t post, IsAt tokens span pre t post ∧ t.kind = .rightParen ∧
        IsBalanced (pre.map (·.kind)) ∧
        ∀ before u after, pre = before ++ u :: after → u.kind = .leftParen →
          ¬IsBalanced (after.map (·.kind))) ∧
    (Criteria.parse source = .error (.unclosedParen span) →
      ∃ pre t post, IsAt tokens span pre t post ∧ t.kind = .leftParen ∧
        ¬IsClosedIn (post.map (·.kind)) ∧ IsBalanced (post.map (·.kind)) ∧
        ∀ before u after, post = before ++ u :: after → u.kind = .leftParen →
          IsClosedIn (after.map (·.kind))) ∧
    (Criteria.parse source = .error (.unexpectedToken .expression .rightParen span) →
      ∃ pre t post, IsAt tokens span pre t post ∧ t.kind = .rightParen ∧
        ∃ before u after, pre = before ++ u :: after ∧ u.kind = .leftParen ∧
          ¬IsClosedIn (after.map (·.kind))) := by
  have hmap : ∀ {before after : List Token} {u : Token}, u.kind = .leftParen →
      (before ++ u :: after).map (·.kind) =
        before.map (·.kind) ++ .leftParen :: after.map (·.kind) := by
    intro before after u hkind
    rw [List.map_append, List.map_cons, hkind]
  rw [Criteria.parse_of_tokenize htokens]
  refine ⟨fun h => ?_, fun h => ?_, fun h => ?_⟩
  · obtain ⟨pre, t, post, htoken, hspan, hkind, hpre⟩ := Parser.exists_unmatched h
    refine ⟨pre, t, post, isAt_of_tokenize htokens htoken hspan, hkind, hpre, ?_⟩
    rintro before u after rfl hleft
    rw [hmap hleft] at hpre
    -- If the parenthesis closed this one, there would be one more opening than closing in front.
    exact fun hafter => Nat.ne_of_gt hpre.count_lt_of_append hafter.count_eq
  · obtain ⟨pre, t, post, htoken, hspan, hkind, hpost⟩ := Parser.exists_unclosed h
    refine ⟨pre, t, post, isAt_of_tokenize htokens htoken hspan, hkind,
      hpost.closesOwn.not_isClosedIn, hpost, ?_⟩
    rintro before u after rfl hleft
    rw [hmap hleft] at hpost
    exact isClosedIn_of_count_lt hpost.count_lt_of_append
  · obtain ⟨pre, t, post, htoken, hspan, hkind, before, u, after, hpre, hleft, hafter⟩ :=
      Parser.exists_unexpected h
    refine ⟨pre, t, post, isAt_of_tokenize htokens htoken hspan, hkind, ?_⟩
    exact ⟨before, u, after, hpre, hleft, hafter.not_isClosedIn⟩

/-- In `clean)` the parenthesis is unmatched, in `(clean || (explicit` the second one is unclosed,
and in `(clean && )` the closing one comes too early. -/
theorem Criteria.parse_eq_error_paren_three :
    (∃ tokens pre t post, tokenize "clean)" = .ok tokens ∧
      Criteria.parse "clean)" = .error (.unmatchedParen ⟨5, 6⟩) ∧
      IsAt tokens ⟨5, 6⟩ pre t post ∧ IsBalanced (pre.map (·.kind))) ∧
    (∃ tokens pre t post, tokenize "(clean || (explicit" = .ok tokens ∧
      Criteria.parse "(clean || (explicit" = .error (.unclosedParen ⟨10, 11⟩) ∧
      IsAt tokens ⟨10, 11⟩ pre t post ∧ ¬IsClosedIn (post.map (·.kind))) ∧
    ∃ tokens pre t post, tokenize "(clean && )" = .ok tokens ∧
      Criteria.parse "(clean && )" = .error (.unexpectedToken .expression .rightParen ⟨10, 11⟩) ∧
      IsAt tokens ⟨10, 11⟩ pre t post ∧
      ∃ before u after, pre = before ++ u :: after ∧ u.kind = .leftParen ∧
        ¬IsClosedIn (after.map (·.kind)) := by
  refine ⟨?_, ?_, ?_⟩
  · have htokens : tokenize "clean)" =
        .ok [⟨.keyword .clean, ⟨0, 5⟩⟩, ⟨.rightParen, ⟨5, 6⟩⟩] := by decide +kernel
    have herror : Criteria.parse "clean)" = .error (.unmatchedParen ⟨5, 6⟩) := by
      rw [parse_of_tokenize htokens]
      decide +kernel
    obtain ⟨pre, t, post, hat, -, hpre, -⟩ := (parse_eq_error_paren htokens _).1 herror
    exact ⟨_, pre, t, post, htokens, herror, hat, hpre⟩
  · have htokens : tokenize "(clean || (explicit" =
        .ok [⟨.leftParen, ⟨0, 1⟩⟩, ⟨.keyword .clean, ⟨1, 6⟩⟩, ⟨.or, ⟨7, 9⟩⟩,
          ⟨.leftParen, ⟨10, 11⟩⟩, ⟨.keyword .explicit, ⟨11, 19⟩⟩] := by decide +kernel
    have herror : Criteria.parse "(clean || (explicit" = .error (.unclosedParen ⟨10, 11⟩) := by
      rw [parse_of_tokenize htokens]
      decide +kernel
    obtain ⟨pre, t, post, hat, -, hopen, -⟩ := (parse_eq_error_paren htokens _).2.1 herror
    exact ⟨_, pre, t, post, htokens, herror, hat, hopen⟩
  · have htokens : tokenize "(clean && )" =
        .ok [⟨.leftParen, ⟨0, 1⟩⟩, ⟨.keyword .clean, ⟨1, 6⟩⟩, ⟨.and, ⟨7, 9⟩⟩,
          ⟨.rightParen, ⟨10, 11⟩⟩] := by decide +kernel
    have herror : Criteria.parse "(clean && )" =
        .error (.unexpectedToken .expression .rightParen ⟨10, 11⟩) := by
      rw [parse_of_tokenize htokens]
      decide +kernel
    obtain ⟨pre, t, post, hat, -, hopen⟩ := (parse_eq_error_paren htokens _).2.2 herror
    exact ⟨_, pre, t, post, htokens, herror, hat, hopen⟩

end TrackCriteria
