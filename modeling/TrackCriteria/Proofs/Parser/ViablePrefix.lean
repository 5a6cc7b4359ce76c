import TrackCriteria.Proofs.Parser.Blame
import TrackCriteria.Proofs.Parser.Completeness
import TrackCriteria.Proofs.Parser.Source
import TrackCriteria.Proofs.Token.Span

/-!
# Errors come as early as they can

When a parser fails at a token, the tokens before it can be completed to what can be parsed, and
whatever comes after it, the error is the same (`parse_eq_error`). So nothing is read beyond the
token that makes the input hopeless.
-/

namespace TrackCriteria

/-! ### Fronts of derivations -/

/-- Whether tokens can be completed to what a rule derives with operands nested at most `n` deep. -/
def Viable (rule : Rule) (n : Nat) (ks : List Token.Kind) : Prop :=
  ∃ more d e, d ≤ n ∧ Derives rule d (ks ++ more) e

variable {rule item : Rule} {op : Token.Kind} {join : Criteria → Criteria → Criteria} {n d : Nat}
  {ks ks' : List Token.Kind}

theorem Derives.viable {e : Criteria} (h : Derives rule d ks e) (hd : d ≤ n) :
    Viable rule n ks := by
  refine ⟨[], d, e, hd, ?_⟩
  rwa [List.append_nil]

theorem Viable.single (hchain : IsChain rule item op join) (h : Viable item n ks) :
    Viable rule n ks := by
  obtain ⟨more, d, e, hd, hderives⟩ := h
  exact ⟨more, d, e, hd, hchain.single hderives⟩

/-- A chain goes on well as long as its last item does. -/
theorem Viable.link (hchain : IsChain rule item op join) {left : Criteria}
    (hleft : Derives rule d ks left) (hd : d ≤ n) (h : Viable item n ks') :
    Viable rule n (ks ++ op :: ks') := by
  obtain ⟨more, d', e, hd', hderives⟩ := h
  refine ⟨more, max d d', join left e, Nat.max_le.mpr ⟨hd, hd'⟩, ?_⟩
  rw [List.append_assoc, List.cons_append]
  exact hchain.link hleft hderives

theorem Viable.not (h : Viable .operand n ks) : Viable .operand (n + 1) (.not :: ks) := by
  obtain ⟨more, d, e, hd, hderives⟩ := h
  exact ⟨more, d + 1, .not e, Nat.succ_le_succ hd, hderives.not⟩

theorem Viable.operand (h : Viable .primary n ks) : Viable .operand (n + 1) ks := by
  obtain ⟨more, d, e, hd, hderives⟩ := h
  exact ⟨more, d + 1, e, Nat.succ_le_succ hd, hderives.operand⟩

/-- A group goes on well as long as what is inside of it does: then it can be closed. -/
theorem Viable.group (h : Viable .disjunction n ks) : Viable .primary n (.leftParen :: ks) := by
  obtain ⟨more, d, e, hd, hderives⟩ := h
  refine ⟨more ++ [.rightParen], d, e, hd, ?_⟩
  rw [List.cons_append, ← List.append_assoc]
  exact hderives.group

theorem Viable.test {k : Keyword} (h : Parser.ViableTest k ks) :
    Viable .primary n (.keyword k :: ks) := by
  obtain ⟨more, a, hspells⟩ := h
  exact ⟨more, 0, .atom a, Nat.zero_le n, .test hspells⟩

theorem viable_nil (n : Nat) : Viable .primary n [] :=
  ⟨[.keyword .clean], 0, .atom .clean, Nat.zero_le n, .test .clean⟩

namespace Parser

variable {m : Step Criteria}

/-! ### Reading the same again -/

/-- A step that succeeds has read by a rule, and would read the same in front of other tokens that
start in the same way. -/
def Rereads (rule : Rule) (n : Nat) (m : Step Criteria) : Prop :=
  ∀ p e q, m p = .ok e q → ∃ ts d, Passes m p e q ts ∧ d ≤ n ∧ Derives rule d (ts.map (·.kind)) e

theorem operand_rereads (n : Nat) : Rereads .operand n (operand n) := by
  intro p e q h
  obtain ⟨ts, rest, d, hrest, rfl, hd, hderives⟩ := operand_reads n p e q h
  refine ⟨ts, d, ⟨hrest, fun tokens rest' _ => ?_⟩, hd, hderives⟩
  exact (completes hderives n ts rfl tokens rest' p.depth p.groups).1 hd

/-- What holds after each item of a chain holds after the chain. -/
theorem links_keeps {P : Parser → Prop} (hm : ∀ p e q, m p = .ok e q → P q) :
    ∀ (bound : Nat) (left : Criteria) (p : Parser) (e : Criteria) (q : Parser), P p →
      links op join m bound left p = .ok e q → P q := by
  intro bound
  induction bound with
  | zero =>
    rintro left p e q hp ⟨⟩
    exact hp
  | succ bound ih =>
    intro left p e q hp h
    obtain ⟨tokens, rest, depth, groups⟩ := p
    -- One more link is read, or the chain ends here.
    rcases head_eq_or_ne op rest with ⟨t, rest, rfl, hkind⟩ | hne
    · rw [links_cons hkind, bind_eq_ok] at h
      obtain ⟨right, p', hitem, hlinks⟩ := h
      exact ih _ _ _ _ (hm _ _ _ hitem) hlinks
    · rw [links_of_ne hne] at h
      cases h
      exact hp

/-- The operator does not follow a chain that may have as many links as there are tokens. -/
theorem links_stops (hm : Reads item n m) :
    ∀ (bound : Nat) (left : Criteria) (p : Parser) (e : Criteria) (q : Parser),
      p.rest.length ≤ bound → links op join m bound left p = .ok e q →
      ∀ t ∈ q.rest.head?, t.kind ≠ op := by
  intro bound
  induction bound with
  | zero =>
    rintro left p e q hlength ⟨⟩
    rw [List.length_eq_zero_iff.mp (Nat.le_zero.mp hlength)]
    rintro t ⟨⟩
  | succ bound ih =>
    intro left p e q hlength h
    obtain ⟨tokens, rest, depth, groups⟩ := p
    rcases head_eq_or_ne op rest with ⟨t, rest, rfl, hkind⟩ | hne
    · rw [links_cons hkind, bind_eq_ok] at h
      obtain ⟨right, p', hitem, hlinks⟩ := h
      -- A link takes its operator at least, so the bound lasts for the tokens that are left.
      obtain ⟨ts, rest', d, hrest, rfl, -⟩ := hm _ _ _ hitem
      refine ih _ _ _ _ ?_ hlinks
      have hle := Nat.le_of_succ_le_succ hlength
      rw [show rest = ts ++ rest' from hrest, List.length_append] at hle
      exact Nat.le_trans (Nat.le_add_left _ _) hle
    · rw [links_of_ne hne] at h
      cases h
      exact hne

theorem chain_stops (hm : Reads item n m) {p q : Parser} {e : Criteria}
    (h : chain op join m p = .ok e q) : ∀ t ∈ q.rest.head?, t.kind ≠ op := by
  obtain ⟨left, p', -, hlinks⟩ := bind_eq_ok.mp h
  exact links_stops hm _ left p' e q (Nat.le_refl _) hlinks

/-- Neither operator follows a disjunction. -/
theorem disjunction_stops {p q : Parser} {e : Criteria} (h : disjunction (operand n) p = .ok e q) :
    ∀ t ∈ q.rest.head?, t.kind ≠ .and ∧ t.kind ≠ .or := by
  have hconjunction : ∀ p e q, chain .and .and (operand n) p = .ok e q →
      ∀ t ∈ q.rest.head?, t.kind ≠ .and :=
    fun _ _ _ => chain_stops (operand_reads n)
  have hor := chain_stops (chain_reads isChain_conjunction (operand_reads n)) h
  obtain ⟨left, p', hleft, hlinks⟩ := bind_eq_ok.mp h
  have hand := links_keeps (P := fun q => ∀ t ∈ q.rest.head?, t.kind ≠ .and) hconjunction _ left p'
    e q (hconjunction _ _ _ hleft) hlinks
  exact fun t ht => ⟨hand t ht, hor t ht⟩

theorem conjunction_rereads (n : Nat) : Rereads .conjunction n (chain .and .and (operand n)) := by
  intro p e q h
  have hstops := chain_stops (operand_reads n) h
  obtain ⟨ts, rest, d, hrest, rfl, hd, hderives⟩ :=
    chain_reads isChain_conjunction (operand_reads n) p e q h
  refine ⟨ts, d, ⟨hrest, fun tokens rest' hhead => ?_⟩, hd, hderives⟩
  rw [(completes hderives n ts rfl tokens rest' p.depth p.groups).1 hd]
  exact links_of_ne (by rwa [hhead]) _ _

theorem disjunction_rereads (n : Nat) : Rereads .disjunction n (disjunction (operand n)) := by
  intro p e q h
  have hstops := disjunction_stops h
  obtain ⟨ts, rest, d, hrest, rfl, hd, hderives⟩ := disjunction_reads (operand_reads n) p e q h
  refine ⟨ts, d, ⟨hrest, fun tokens rest' hhead => ?_⟩, hd, hderives⟩
  rw [← hhead] at hstops
  rw [(completes hderives n ts rfl tokens rest' p.depth p.groups fun t ht => (hstops t ht).1).1 hd]
  exact links_of_ne (fun t ht => (hstops t ht).2) _ _

/-! ### Errors in chains -/

/-- The error of a chain with few links to read is that of one with more. -/
theorem links_error_of_le {bound bound' : Nat} (hle : bound ≤ bound') {left : Criteria}
    {p q : Parser} {err : SyntaxError} (h : links op join m bound left p = .error err q) :
    links op join m bound' left p = .error err q := by
  induction bound generalizing bound' left p with
  | zero => cases h
  | succ bound ih =>
    cases bound' with
    | zero => cases hle
    | succ bound' =>
      obtain ⟨tokens, rest, depth, groups⟩ := p
      rcases head_eq_or_ne op rest with ⟨t, rest, rfl, hkind⟩ | hne
      · -- The error is that of the first link, or of those after it.
        rw [links_cons hkind] at h ⊢
        rcases bind_eq_error.mp h with herror | ⟨right, p', hitem, herror⟩
        · exact bind_error herror
        · exact (bind_ok hitem).trans (ih (Nat.le_of_succ_le_succ hle) herror)
      · rw [links_of_ne hne] at h
        cases h

theorem links_fails (hchain : IsChain rule item op join) (hm : Rereads item n m)
    (hfails : Fails (Viable item n) m) :
    ∀ (bound : Nat) (left : Criteria) (ks : List Token.Kind) (d : Nat), Derives rule d ks left →
      d ≤ n → Fails (fun ks' => Viable rule n (ks ++ ks')) (links op join m bound left) := by
  intro bound
  induction bound with
  | zero =>
    rintro left ks d hleft hd p err q ⟨⟩
  | succ bound ih =>
    intro left ks d hleft hd p err q h hnesting
    obtain ⟨tokens, rest, depth, groups⟩ := p
    rcases head_eq_or_ne op rest with ⟨t, rest, rfl, hkind⟩ | hne
    · -- The item after the operator fails, or the rest of the chain does.
      have hlink : Fails (fun ks' => Viable rule n (ks ++ op :: ks'))
          (m >>= fun right => links op join m bound (join left right)) := by
        refine Fails.bind (hfails.mono fun ks' => Viable.link hchain hleft hd) ?_
        intro p right q hok
        obtain ⟨ts, d', hpasses, hd', hright⟩ := hm p right q hok
        refine ⟨ts, hpasses, ?_⟩
        have hrest := ih _ _ _ (hchain.link hleft hright) (Nat.max_le.mpr ⟨hd, hd'⟩)
        simpa only [List.append_assoc, List.cons_append] using hrest
      rw [links_cons hkind] at h
      refine (hlink _ _ _ h hnesting).lift [t] rfl ?_ ?_
      · intro ks' hviable
        rw [List.map_singleton, hkind]
        exact hviable
      · intro tokens rest' q' _ herror
        exact ⟨q', (links_cons hkind bound left).trans herror⟩
    · rw [links_of_ne hne] at h
      cases h

theorem chain_fails (hchain : IsChain rule item op join) (hreads : Reads item n m)
    (hm : Rereads item n m) (hfails : Fails (Viable item n) m) :
    Fails (Viable rule n) (chain op join m) := by
  intro p err q h hnesting
  rcases bind_eq_error.mp h with herror | ⟨left, p', hok, herror⟩
  · refine (hfails p err q herror hnesting).lift [] rfl
      (fun _ => Viable.single hchain) fun tokens rest q' _ herror' => ?_
    exact ⟨q', chain_error herror'⟩
  · obtain ⟨ts, d, ⟨hrest, hpasses⟩, hd, hderives⟩ := hm p left p' hok
    have hlinks := links_fails hchain hm hfails p'.rest.length left _ d (hchain.single hderives) hd
    refine (hlinks p' err q herror hnesting).lift ts hrest (fun _ hviable => hviable) ?_
    intro tokens rest q' hhead herror'
    refine ⟨q', (chain_of_ok (hpasses tokens rest hhead)).trans ?_⟩
    -- The number of links depends on the tokens that are left, but it does not matter here.
    rcases Nat.le_total p'.rest.length rest.length with hle | hle
    · exact links_error_of_le hle herror'
    · exact (links_eq_of_le hreads _ _ left _ (Nat.le_refl _) hle).trans herror'

/-! ### Errors in groups and operands -/

theorem group_of_ne {opening : Span} {p : Parser} {tokens rest : List Token} {depth groups : Nat}
    {e : Criteria} {t : Token}
    (h : m { p with groups := p.groups + 1 } = .ok e ⟨tokens, t :: rest, depth, groups⟩)
    (hkind : t.kind ≠ .rightParen) :
    group opening m p = .error (.unexpectedToken .closingParen t.kind t.span)
      ⟨tokens, t :: rest, depth, groups⟩ := by
  refine (bind_ok (p := { p with groups := p.groups + 1 }) h).trans ?_
  show (if t.kind = .rightParen then _ else _ : Step Criteria) _ = _
  rw [if_neg hkind]
  rfl

theorem group_fails {opening : Span} (hm : Rereads .disjunction n m)
    (hfails : Fails (Viable .disjunction n) m) :
    Fails (fun ks => Viable .primary n (.leftParen :: ks)) (group opening m) := by
  intro p err q h hnesting
  replace h : (m >>= _) { p with groups := p.groups + 1 } = .error err q := h
  rcases bind_eq_error.mp h with herror | ⟨e, p', hok, herror⟩
  · -- The error comes from inside of the group.
    refine (hfails _ err q herror hnesting).lift [] rfl (fun _ => Viable.group) ?_
    intro tokens rest q' _ herror'
    exact ⟨q', group_error herror'⟩
  · obtain ⟨ts, d, ⟨hrest, hpasses⟩, hd, hderives⟩ := hm _ e p' hok
    have hviable := (hderives.viable hd).group
    obtain ⟨tokens, rest, depth, groups⟩ := p'
    -- What is inside is complete. The tokens end there, or go on with one that does not close the
    -- group.
    cases rest with
    | nil =>
      cases herror
      rw [List.append_nil] at hrest
      refine .ending trivial ?_
      rw [show p.rest = ts from hrest]
      exact hviable
    | cons t rest =>
      by_cases hkind : t.kind = .rightParen
      · have hclosed : group opening m p = .ok e _ :=
          group_eq_ok.mpr ⟨_, t, rest, hok, rfl, hkind, rfl⟩
        rw [show group opening m p = .error err q from h] at hclosed
        cases hclosed
      · have hclosing : group opening m p = _ := group_of_ne hok hkind
        rw [show group opening m p = .error err q from h] at hclosing
        cases hclosing
        refine .token ts t rest hrest rfl id hviable fun tokens' post => ?_
        exact ⟨_, group_of_ne (hpasses tokens' (t :: post) rfl) hkind⟩

theorem primary_fails (hm : Rereads .disjunction n m) (hfails : Fails (Viable .disjunction n) m) :
    Fails (Viable .primary n) (primary m) := by
  rintro ⟨tokens, rest, depth, groups⟩ err q h hnesting
  cases rest with
  | nil =>
    cases h
    exact .ending trivial (viable_nil n)
  | cons t rest =>
    obtain ⟨kind, span⟩ := t
    -- A token that starts no primary expression is blamed itself.
    have hblame : ∀ {err : SyntaxError}, err.span? = some span → ¬err.IsAtEnd →
        (∀ tokens post, ∃ q, primary m ⟨tokens, ⟨kind, span⟩ :: post, depth, groups⟩ =
          .error err q) →
        Blame (Viable .primary n) (primary m) ⟨tokens, ⟨kind, span⟩ :: rest, depth, groups⟩ err :=
      fun hspan hend hsame => .token [] _ rest rfl hspan hend (viable_nil n) hsame
    cases kind with
    | leftParen =>
      rw [primary_leftParen rfl] at h
      refine (group_fails hm hfails _ err q h hnesting).lift [_] rfl
        (fun _ hviable => hviable) fun tokens rest q' _ herror => ?_
      exact ⟨q', (primary_leftParen rfl).trans herror⟩
    | keyword k =>
      rw [primary_keyword rfl] at h
      have htest := (test_fails k).bind_of_ne_error (f := fun a => pure (Formula.atom a))
        (by rintro a p err q ⟨⟩)
      refine (htest _ err q h hnesting).lift [_] rfl (fun _ => Viable.test) ?_
      intro tokens rest q' _ herror
      exact ⟨q', (primary_keyword rfl).trans herror⟩
    | rightParen =>
      -- Whether it closes nothing or comes too early, only the open groups matter.
      cases groups with
      | zero =>
        cases h
        exact hblame rfl id fun tokens post => ⟨_, rfl⟩
      | succ groups =>
        cases h
        exact hblame rfl id fun tokens post => ⟨_, rfl⟩
    | _ =>
      cases h
      exact hblame rfl id fun tokens post => ⟨_, rfl⟩

theorem disjunction_fails (hfails : Fails (Viable .operand n) (operand n)) :
    Fails (Viable .disjunction n) (disjunction (operand n)) :=
  chain_fails isChain_disjunction (chain_reads isChain_conjunction (operand_reads n))
    (conjunction_rereads n)
    (chain_fails isChain_conjunction (operand_reads n) (operand_rereads n) hfails)

theorem operand_fails (n : Nat) : Fails (Viable .operand n) (operand n) := by
  induction n with
  | zero =>
    intro p err q h hnesting
    obtain ⟨span, herror⟩ := operand_zero p
    rw [herror] at h
    cases h
    exact absurd rfl (hnesting span)
  | succ n ih =>
    intro p err q h hnesting
    obtain ⟨tokens, rest, depth, groups⟩ := p
    rcases head_eq_or_ne .not rest with ⟨t, rest, rfl, hkind⟩ | hne
    · have hoperand := ih.bind_of_ne_error (f := fun e => leave >>= fun _ => pure (Formula.not e))
        (by rintro a p err q ⟨⟩)
      rw [operand_not hkind] at h
      refine (hoperand _ err q h hnesting).lift [t] rfl ?_ ?_
      · intro ks hviable
        rw [List.map_singleton, hkind]
        exact hviable.not
      · intro tokens rest' q' _ herror
        exact ⟨q', (operand_not hkind n).trans herror⟩
    · have hgroup := primary_fails (disjunction_rereads n) (disjunction_fails ih)
      have hprimary := hgroup.bind_of_ne_error (f := fun e => leave >>= fun _ => pure e)
        (by rintro a p err q ⟨⟩)
      rw [operand_of_ne hne] at h
      refine (hprimary _ err q h hnesting).lift [] rfl (fun _ => Viable.operand) ?_
      intro tokens rest' q' hhead herror
      -- What comes next is no `!` either, since it is the same token.
      have hne' : ∀ t ∈ rest'.head?, t.kind ≠ .not := by
        rw [hhead]
        exact hne
      exact ⟨q', (operand_of_ne (p := ⟨tokens, rest', depth, groups⟩) hne' n).trans herror⟩

/-! ### Whole expressions -/

/-- Tokens that go on well can be completed to what is parsed. -/
theorem exists_parse_append {ts : List Token}
    (h : Viable .disjunction maxDepth (ts.map (·.kind))) :
    ∃ more e, (ofTokens (ts ++ more)).parse.1 = .ok e := by
  obtain ⟨more, d, e, hd, hderives⟩ := h
  refine ⟨more.map fun k => ⟨k, ⟨0, 0⟩⟩, e, (parse_of_derives ?_).1 hd⟩
  rw [List.map_append, List.map_map]
  exact (List.map_id more).symm ▸ hderives

/-- An expression ends in front of a token that it cannot go on with, and that is an error. -/
theorem expression_of_cons {p : Parser} {tokens rest : List Token} {depth groups : Nat} {t : Token}
    {e : Criteria} (hne : p.tokens ≠ [])
    (h : disjunction (operand (maxDepth - p.depth)) p = .ok e ⟨tokens, t :: rest, depth, groups⟩) :
    expression p =
      .error (if t.kind = .rightParen then .unmatchedParen t.span else .trailingInput t.kind t.span)
        ⟨tokens, t :: rest, depth, groups⟩ := by
  obtain ⟨tokens', rest', depth', groups'⟩ := p
  cases tokens' with
  | nil => exact absurd rfl hne
  | cons t' tokens' =>
    refine (bind_ok (m := disjunction (operand (maxDepth - depth'))) h).trans ?_
    show (if t.kind = .rightParen then _ else _ : Step Criteria) _ = _
    split <;> rfl

theorem parse_of_expression_error {p q : Parser} {err : SyntaxError}
    (h : expression p = .error err q) : p.parse.1 = .error err := by
  rw [parse, h]

/-- The error of a parser is blamed on the end of its tokens or on one of them. -/
theorem parse_blames {tokens : List Token} {err : SyntaxError}
    (h : (ofTokens tokens).parse.1 = .error err) (hempty : err ≠ .empty)
    (hnesting : ∀ span, err ≠ .nestingTooDeep span) :
    (err.IsAtEnd ∧ Viable .disjunction maxDepth (tokens.map (·.kind))) ∨
      ∃ pre t post, tokens = pre ++ t :: post ∧ err.span? = some t.span ∧ ¬err.IsAtEnd ∧
        Viable .disjunction maxDepth (pre.map (·.kind)) ∧
        ∀ post', (ofTokens (pre ++ t :: post')).parse.1 = .error err := by
  have hne : tokens ≠ [] := by
    rintro rfl
    cases h
    exact hempty rfl
  have hcons : ∀ (pre : List Token) (t : Token) (post : List Token),
      (ofTokens (pre ++ t :: post)).tokens ≠ [] :=
    fun _ _ _ => List.append_ne_nil_of_right_ne_nil _ (List.cons_ne_nil _ _)
  cases hdisj : disjunction (operand (maxDepth - (ofTokens tokens).depth)) (ofTokens tokens) with
  | error err' q =>
    rw [parse_of_expression_error (expression_error hne hdisj)] at h
    cases h
    have hblame := disjunction_fails (operand_fails maxDepth) _ err q hdisj hnesting
    cases hblame with
    | ending hend hviable => exact .inl ⟨hend, hviable⟩
    | token pre t post hrest hspan hend hviable hsame =>
      refine .inr ⟨pre, t, post, hrest, hspan, hend, hviable, fun post' => ?_⟩
      obtain ⟨q', herror⟩ := hsame (pre ++ t :: post') post'
      exact parse_of_expression_error (expression_error (hcons pre t post') herror)
  | ok e q =>
    obtain ⟨ts, d, ⟨hrest, hpasses⟩, hd, hderives⟩ := disjunction_rereads maxDepth _ e q hdisj
    obtain ⟨tokens', rest, depth, groups⟩ := q
    cases rest with
    | nil =>
      rw [parse, expression_eq_ok.mpr ⟨hne, hdisj, rfl⟩] at h
      cases h
    | cons t rest =>
      rw [parse_of_expression_error (expression_of_cons hne hdisj)] at h
      cases h
      -- The tokens before the one that is blamed are a whole expression.
      refine .inr ⟨ts, t, rest, hrest, ?_, ?_, hderives.viable hd, fun post => ?_⟩
      · split <;> rfl
      · split <;> exact id
      · exact parse_of_expression_error
          (expression_of_cons (hcons ts t post) (hpasses (ts ++ t :: post) (t :: post) rfl))

/-- **Errors come as early as they can, and stay the same when more is typed.** Where the tokens of
a source ended too soon, they can be completed to what is parsed. Any other error, but that there is
no token at all or that operands are nested too deep, is about one token: those before it can be
completed to what is parsed, and the error is the same whatever comes after it. -/
theorem parse_eq_error {source : String} {tokens : List Token} {err : SyntaxError}
    (htokens : tokenize source = .ok tokens) (h : (ofTokens tokens).parse.1 = .error err)
    (hempty : err ≠ .empty) (hnesting : ∀ span, err ≠ .nestingTooDeep span) :
    (err.IsAtEnd → ∃ more e, (ofTokens (tokens ++ more)).parse.1 = .ok e) ∧
      (¬err.IsAtEnd → ∃ pre t post, tokens = pre ++ t :: post ∧ err.span? = some t.span ∧
        (∀ u ∈ pre ++ post, u.span ≠ t.span) ∧
        (∃ more e, (ofTokens (pre ++ more)).parse.1 = .ok e) ∧
        ∀ post', (ofTokens (pre ++ t :: post')).parse.1 = .error err) := by
  rcases parse_blames h hempty hnesting with
    ⟨hend, hviable⟩ | ⟨pre, t, post, hpre, hspan, hend, hviable, hsame⟩
  · exact ⟨fun _ => exists_parse_append hviable, fun hne => absurd hend hne⟩
  · refine ⟨fun hatEnd => absurd hatEnd hend, fun _ => ?_⟩
    have hscan : Token.scan source = pre ++ t :: post := (tokenize_eq_ok.mp htokens).1.trans hpre
    exact ⟨pre, t, post, hpre, hspan, Token.span_ne_of_scan hscan, exists_parse_append hviable,
      hsame⟩

/-- In `(clean explicit`, the second word is out of place: the group before it could have been
closed, and nothing that comes after it can help. -/
theorem parse_eq_error_word :
    ∃ (tokens : List Token) (err : SyntaxError), tokenize "(clean explicit" = .ok tokens ∧
      (ofTokens tokens).parse.1 = .error err ∧ ¬err.IsAtEnd ∧
      ∃ pre t post, tokens = pre ++ t :: post ∧ t.span = ⟨7, 15⟩ ∧
        (∃ more e, (ofTokens (pre ++ more)).parse.1 = .ok e) ∧
        ∀ post', (ofTokens (pre ++ t :: post')).parse.1 = .error err := by
  have htokens : tokenize "(clean explicit" = .ok [⟨.leftParen, ⟨0, 1⟩⟩,
      ⟨.keyword .clean, ⟨1, 6⟩⟩, ⟨.keyword .explicit, ⟨7, 15⟩⟩] := by decide +kernel
  have herror : (ofTokens [⟨.leftParen, ⟨0, 1⟩⟩, ⟨.keyword .clean, ⟨1, 6⟩⟩,
      ⟨.keyword .explicit, ⟨7, 15⟩⟩]).parse.1 =
      .error (.unexpectedToken .closingParen (.keyword .explicit) ⟨7, 15⟩) := by decide +kernel
  obtain ⟨-, hearly⟩ := parse_eq_error htokens herror (by rintro ⟨⟩) (by rintro span ⟨⟩)
  obtain ⟨pre, t, post, hpre, hspan, -, hviable, hsame⟩ := hearly id
  have ht : t.span = ⟨7, 15⟩ := (Option.some.inj hspan).symm
  exact ⟨_, _, htokens, herror, id, pre, t, post, hpre, ht, hviable, hsame⟩

end Parser

end TrackCriteria
