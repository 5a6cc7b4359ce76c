import TrackCriteria.Proofs.Parser.Soundness

/-!
# Completeness of the parser

Tokens that derive criteria are read as these criteria if there are levels enough for the operands
of the derivation, and otherwise the nesting is found to be too deep (`completes`). With
soundness, a parser accepts just what the grammar derives.

A chain derivation grows to the right, while the parser has read its front and still looks for
links. So what is proved of a chain is that the parser gets to the end of the derivation with its
answer, ready for a further link: the bound on the number of links, which is not the same there,
makes no difference (`links_eq_of_le`).
-/

namespace TrackCriteria.Parser

variable {rule item : Rule} {op : Token.Kind} {join : Criteria → Criteria → Criteria}
  {m : Step Criteria} {n d d' : Nat}

/-- What a step comes to with `n` levels left where `d` are needed: as wanted if they suffice, and
otherwise the error that the nesting is too deep. -/
def Within (n d : Nat) (result wanted : EStateM.Result SyntaxError Parser Criteria) : Prop :=
  (d ≤ n → result = wanted) ∧ (n < d → ∃ span q, result = .error (.nestingTooDeep span) q)

/-! ### Chains -/

/-- A chain may be given more links to read than there are tokens. -/
theorem links_eq_of_le (hm : Reads item n m) :
    ∀ (bound bound' : Nat) (left : Criteria) (p : Parser), p.rest.length ≤ bound →
      p.rest.length ≤ bound' → links op join m bound left p = links op join m bound' left p := by
  intro bound
  induction bound with
  | zero =>
    intro bound' left p h _
    have hne : ∀ t ∈ p.rest.head?, t.kind ≠ op := by
      rw [List.length_eq_zero_iff.mp (Nat.le_zero.mp h)]
      rintro t ⟨⟩
    rw [links_of_ne hne, links_of_ne hne]
  | succ bound ih =>
    intro bound' left p h h'
    obtain ⟨tokens, rest, depth, groups⟩ := p
    rcases head_eq_or_ne op rest with ⟨t, rest, rfl, hkind⟩ | hne
    · cases bound' with
      | zero => cases h'
      | succ bound' =>
        rw [links_cons hkind, links_cons hkind]
        cases hitem : m ⟨tokens, rest, depth, groups⟩ with
        | error err q => rw [bind_error hitem, bind_error hitem]
        | ok right q =>
          -- The item passes its own tokens, so there are still no more links than either bound.
          obtain ⟨ts, rest', d, hrest, rfl, -⟩ := hm _ _ _ hitem
          have hlength : rest'.length ≤ rest.length := by
            rw [show rest = ts ++ rest' from hrest, List.length_append]
            omega
          rw [bind_ok hitem, bind_ok hitem]
          exact ih _ _ _ (Nat.le_trans hlength (Nat.le_of_succ_le_succ h))
            (Nat.le_trans hlength (Nat.le_of_succ_le_succ h'))
    · rw [links_of_ne hne, links_of_ne hne]

/-- The first item of a chain. -/
theorem within_chain {p q : Parser} {e : Criteria} (h : Within n d (m p) (.ok e q)) :
    Within n d (chain op join m p) (links op join m q.rest.length e q) := by
  constructor
  · intro hd
    rw [chain_of_ok (h.1 hd)]
  · intro hd
    obtain ⟨span, q', herror⟩ := h.2 hd
    exact ⟨span, q', chain_error herror⟩

/-- A further item of a chain. -/
theorem within_chain_link (hm : Reads item n m) {p : Parser} {tokens ts rest : List Token}
    {depth groups : Nat} {t : Token} (hkind : t.kind = op) {left right : Criteria}
    (hleft : Within n d (chain op join m p)
      (links op join m (t :: (ts ++ rest)).length left ⟨tokens, t :: (ts ++ rest), depth, groups⟩))
    (hright : Within n d' (m ⟨tokens, ts ++ rest, depth, groups⟩)
      (.ok right ⟨tokens, rest, depth, groups⟩)) :
    Within n (max d d') (chain op join m p)
      (links op join m rest.length (join left right) ⟨tokens, rest, depth, groups⟩) := by
  rw [List.length_cons, links_cons hkind] at hleft
  constructor
  · intro hd
    obtain ⟨hd, hd'⟩ := Nat.max_le.mp hd
    have hlength : rest.length ≤ (ts ++ rest).length := by
      rw [List.length_append]
      omega
    rw [hleft.1 hd, bind_ok (hright.1 hd')]
    exact links_eq_of_le hm _ _ _ _ hlength (Nat.le_refl _)
  · intro hd
    -- The nesting is too deep on the left already, or else in the new item.
    rcases Nat.lt_or_ge n d with hd' | hd'
    · exact hleft.2 hd'
    · obtain ⟨span, q, herror⟩ := hright.2 (by omega)
      rw [hleft.1 hd', bind_error herror]
      exact ⟨span, q, rfl⟩

/-! ### Operands -/

theorem within_operand_zero (p : Parser) (result : EStateM.Result SyntaxError Parser Criteria) :
    Within 0 (d + 1) (operand 0 p) result := by
  obtain ⟨span, h⟩ := operand_zero p
  exact ⟨fun hd => absurd hd (Nat.not_succ_le_zero d), fun _ => ⟨span, _, h⟩⟩

/-- The last part of an operand: it is left. -/
theorem within_leave {p : Parser} {tokens rest : List Token} {depth groups : Nat} {e : Criteria}
    {f : Criteria → Criteria} (h : Within n d (m p) (.ok e ⟨tokens, rest, depth + 1, groups⟩)) :
    Within (n + 1) (d + 1) ((m >>= fun e => leave >>= fun _ => pure (f e)) p)
      (.ok (f e) ⟨tokens, rest, depth, groups⟩) := by
  constructor
  · intro hd
    exact bind_ok (h.1 (Nat.le_of_succ_le_succ hd))
  · intro hd
    obtain ⟨span, q, herror⟩ := h.2 (Nat.lt_of_succ_lt_succ hd)
    exact ⟨span, q, bind_error herror⟩

/-! ### Derivations -/

/-- What the parser comes to with `n` levels left on tokens that a rule derives, where operands are
nested `d` deep. After a chain it looks for a further link, and the tokens after a disjunction may
not go on with a conjunction. -/
def Completes (n d : Nat) (ts : List Token) (e : Criteria) : Rule → Prop
  | .disjunction => ∀ tokens rest depth groups, (∀ t ∈ rest.head?, t.kind ≠ .and) →
    Within n d (disjunction (operand n) ⟨tokens, ts ++ rest, depth, groups⟩)
      (links .or .or (chain .and .and (operand n)) rest.length e ⟨tokens, rest, depth, groups⟩)
  | .conjunction => ∀ tokens rest depth groups,
    Within n d (chain .and .and (operand n) ⟨tokens, ts ++ rest, depth, groups⟩)
      (links .and .and (operand n) rest.length e ⟨tokens, rest, depth, groups⟩)
  | .operand => ∀ tokens rest depth groups,
    Within n d (operand n ⟨tokens, ts ++ rest, depth, groups⟩)
      (.ok e ⟨tokens, rest, depth, groups⟩)
  | .primary => ∀ tokens rest depth groups,
    Within n d (primary (disjunction (operand n)) ⟨tokens, ts ++ rest, depth, groups⟩)
      (.ok e ⟨tokens, rest, depth, groups⟩)

theorem completes {rule : Rule} {d : Nat} {ks : List Token.Kind} {e : Criteria}
    (h : Derives rule d ks e) :
    ∀ (n : Nat) (ts : List Token), ts.map (·.kind) = ks → Completes n d ts e rule := by
  -- By induction on the derivation, with the tokens behind the phrase and the levels that are left
  -- in general. Each phrase is read up to its end, where its rule cannot go on, or else some
  -- operand in it has no level left.
  induction h with
  | disjunction h ih =>
    intro n ts hts tokens rest depth groups hrest
    have hitem := ih n ts hts tokens rest depth groups
    rw [links_of_ne hrest] at hitem
    exact within_chain hitem
  | or hleft hright ihl ihr =>
    intro n ts hts tokens rest depth groups hrest
    obtain ⟨ts₁, _, rfl, rfl, hts'⟩ := List.map_eq_append_iff.mp hts
    obtain ⟨t, ts₂, rfl, hkind, rfl⟩ := List.map_eq_cons_iff.mp hts'
    -- After the left side comes `||`, with which no conjunction goes on.
    have hleft := ihl n ts₁ rfl tokens (t :: (ts₂ ++ rest)) depth groups (by
      rintro t' ⟨⟩
      rw [hkind]
      rintro ⟨⟩)
    have hright := ihr n ts₂ rfl tokens rest depth groups
    rw [links_of_ne hrest] at hright
    rw [List.append_assoc, List.cons_append]
    exact within_chain_link (chain_reads isChain_conjunction (operand_reads n)) hkind hleft hright
  | conjunction h ih =>
    -- The first operand of a chain, which goes on behind it.
    intro n ts hts tokens rest depth groups
    exact within_chain (ih n ts hts tokens rest depth groups)
  | and hleft hright ihl ihr =>
    -- An operand ends by itself, so nothing is asked of what comes after.
    intro n ts hts tokens rest depth groups
    obtain ⟨ts₁, _, rfl, rfl, hts'⟩ := List.map_eq_append_iff.mp hts
    obtain ⟨t, ts₂, rfl, hkind, rfl⟩ := List.map_eq_cons_iff.mp hts'
    have hleft := ihl n ts₁ rfl tokens (t :: (ts₂ ++ rest)) depth groups
    have hright := ihr n ts₂ rfl tokens rest depth groups
    rw [List.append_assoc, List.cons_append]
    exact within_chain_link (operand_reads n) hkind hleft hright
  | operand h ih =>
    intro n ts hts tokens rest depth groups
    -- There is no `!` to accept, since a primary expression does not start with one.
    have hne : ∀ t ∈ (ts ++ rest).head?, t.kind ≠ .not := by
      obtain ⟨k, ks', rfl, hk⟩ := h.primary_head
      obtain ⟨t, ts', rfl, hkind, -⟩ := List.map_eq_cons_iff.mp hts
      rintro t' ⟨⟩
      rwa [hkind]
    cases n with
    | zero => exact within_operand_zero _ _
    | succ n =>
      rw [operand_of_ne hne]
      exact within_leave (ih n ts hts tokens rest (depth + 1) groups)
  | not h ih =>
    -- The negation takes one level, and its operand has the others.
    intro n ts hts tokens rest depth groups
    obtain ⟨t, ts, rfl, hkind, rfl⟩ := List.map_eq_cons_iff.mp hts
    cases n with
    | zero => exact within_operand_zero _ _
    | succ n =>
      rw [List.cons_append, operand_not hkind]
      exact within_leave (ih n ts rfl tokens rest (depth + 1) groups)
  | group h ih =>
    intro n ts hts tokens rest depth groups
    obtain ⟨t, ts, rfl, hkind, hts⟩ := List.map_eq_cons_iff.mp hts
    obtain ⟨ts, _, rfl, rfl, hts'⟩ := List.map_eq_append_iff.mp hts
    obtain ⟨close, _, rfl, hclose, hnil⟩ := List.map_eq_cons_iff.mp hts'
    obtain rfl := List.map_eq_nil_iff.mp hnil
    -- Both chains inside end in front of the closing parenthesis.
    have hne : ∀ k : Token.Kind, k ≠ .rightParen → ∀ t ∈ (close :: rest).head?, t.kind ≠ k := by
      rintro k hk t' ⟨⟩
      rw [hclose]
      exact hk.symm
    have hinner := ih n ts rfl tokens (close :: rest) depth (groups + 1) (hne _ (by rintro ⟨⟩))
    rw [links_of_ne (hne _ (by rintro ⟨⟩))] at hinner
    rw [List.cons_append, List.append_assoc, List.singleton_append, primary_leftParen hkind]
    constructor
    · intro hd
      exact group_eq_ok.mpr ⟨_, close, rest, hinner.1 hd, rfl, hclose, rfl⟩
    · intro hd
      obtain ⟨span, q, herror⟩ := hinner.2 hd
      exact ⟨span, q, group_error herror⟩
  | test h =>
    -- A test needs no level at all.
    intro n ts hts tokens rest depth groups
    obtain ⟨k, ks, rfl⟩ := h.keyword_head
    obtain ⟨t, ts, rfl, hkind, rfl⟩ := List.map_eq_cons_iff.mp hts
    rw [List.cons_append, primary_keyword hkind]
    refine ⟨fun _ => ?_, fun hd => absurd hd (Nat.not_lt_zero n)⟩
    exact bind_ok (test_eq_ok.mpr ⟨ts, rest, rfl, rfl, h⟩)

/-! ### Whole expressions -/

/-- All tokens derive criteria: a parser with `n` levels left reads them, or they are too many. -/
theorem within_disjunction {tokens : List Token} {e : Criteria}
    (h : Derives .disjunction d (tokens.map (·.kind)) e) (n : Nat) :
    Within n d (disjunction (operand n) (ofTokens tokens)) (.ok e ⟨tokens, [], 0, 0⟩) := by
  have hhead : ∀ k : Token.Kind, ∀ t ∈ ([] : List Token).head?, t.kind ≠ k := by
    rintro k t ⟨⟩
  have hwithin := completes h n tokens rfl tokens [] 0 0 (hhead _)
  rwa [links_of_ne (hhead _), List.append_nil] at hwithin

/-- Tokens that derive criteria are read as these if operands are nested at most `maxDepth` deep,
and otherwise the nesting is found to be too deep. -/
theorem parse_of_derives {tokens : List Token} {e : Criteria}
    (h : Derives .disjunction d (tokens.map (·.kind)) e) :
    (d ≤ maxDepth → (ofTokens tokens).parse.1 = .ok e) ∧
      (maxDepth < d → ∃ span, (ofTokens tokens).parse.1 = .error (.nestingTooDeep span)) := by
  have hne : (ofTokens tokens).tokens ≠ [] := by
    rintro (rfl : tokens = [])
    exact h.ne_nil rfl
  have hwithin := within_disjunction h (maxDepth - (ofTokens tokens).depth)
  constructor
  · intro hd
    rw [parse, expression_eq_ok.mpr ⟨hne, hwithin.1 hd, rfl⟩]
  · intro hd
    obtain ⟨span, q, herror⟩ := hwithin.2 hd
    refine ⟨span, ?_⟩
    rw [parse, expression_error hne herror]

/-- A parser that succeeds has read what the grammar derives, wherever it started. -/
theorem derives_rest_of_parse {p : Parser} {e : Criteria} (h : p.parse.1 = .ok e) :
    ∃ d ≤ maxDepth - p.depth, Derives .disjunction d (p.rest.map (·.kind)) e := by
  cases hexpr : expression p with
  | error err q =>
    rw [parse, hexpr] at h
    cases h
  | ok e' q =>
    rw [parse, hexpr] at h
    cases h
    -- A disjunction has been read, with no token behind it.
    obtain ⟨-, hdisj, hrest⟩ := expression_eq_ok.mp hexpr
    obtain ⟨ts, rest, d, hts, rfl, hd, hderives⟩ :=
      disjunction_reads (operand_reads _) _ _ _ hdisj
    obtain rfl : rest = [] := hrest
    rw [hts, List.append_nil]
    exact ⟨d, hd, hderives⟩

theorem derives_of_parse {tokens : List Token} {e : Criteria}
    (h : (ofTokens tokens).parse.1 = .ok e) :
    ∃ d ≤ maxDepth, Derives .disjunction d (tokens.map (·.kind)) e :=
  derives_rest_of_parse h

/-- Tokens of given kinds, wherever they stand. -/
theorem exists_map_kind_eq (ks : List Token.Kind) :
    ∃ tokens : List Token, tokens.map (·.kind) = ks := by
  refine ⟨ks.map fun k => ⟨k, ⟨0, 0⟩⟩, ?_⟩
  rw [List.map_map]
  exact List.map_id ks

/-- Tokens derive at most one expression, and its operands are nested in one way: a parser with
levels enough reads both, and one with too few for either reads neither. -/
theorem derives_unique {ks : List Token.Kind} {e e' : Criteria}
    (h : Derives .disjunction d ks e) (h' : Derives .disjunction d' ks e') : d = d' ∧ e = e' := by
  obtain ⟨tokens, rfl⟩ := exists_map_kind_eq ks
  -- With `d` levels a parser reads what needs `d`, and fails on what needs more.
  have hdepth : ∀ {d d' : Nat} {e e' : Criteria}, Derives .disjunction d (tokens.map (·.kind)) e →
      Derives .disjunction d' (tokens.map (·.kind)) e' → ¬d < d' := by
    intro d d' e e' h h' hlt
    obtain ⟨span, q, herror⟩ := (within_disjunction h' d).2 hlt
    rw [(within_disjunction h d).1 (Nat.le_refl d)] at herror
    cases herror
  obtain rfl : d = d' :=
    Nat.le_antisymm (Nat.not_lt.mp (hdepth h' h)) (Nat.not_lt.mp (hdepth h h'))
  have hok := (within_disjunction h d).1 (Nat.le_refl d)
  rw [(within_disjunction h' d).1 (Nat.le_refl d)] at hok
  cases hok
  exact ⟨rfl, rfl⟩

/-- **The parser accepts just what the grammar derives.** It answers with criteria iff the kinds of
the tokens derive them with operands nested at most `maxDepth` deep. There is never more than one
derived expression. -/
theorem parse_eq_ok_iff_derives :
    (∀ (tokens : List Token) (e : Criteria), (ofTokens tokens).parse.1 = .ok e ↔
      ∃ d ≤ maxDepth, Derives .disjunction d (tokens.map (·.kind)) e) ∧
    ∀ (ks : List Token.Kind) (d d' : Nat) (e e' : Criteria), Derives .disjunction d ks e →
      Derives .disjunction d' ks e' → d = d' ∧ e = e' := by
  refine ⟨fun tokens e => ⟨derives_of_parse, ?_⟩, fun ks d d' e e' => derives_unique⟩
  rintro ⟨d, hd, hderives⟩
  exact (parse_of_derives hderives).1 hd

/-- `!clean || explicit && (unlabeled)` is a disjunction and nothing else. -/
theorem parse_eq_ok_iff_derives_disjunction :
    ∃ (tokens : List Token) (e : Criteria),
      e = .or (.not (.atom .clean)) (.and (.atom .explicit) (.atom .unlabeled)) ∧
        Derives .disjunction 2 (tokens.map (·.kind)) e ∧ (ofTokens tokens).parse.1 = .ok e ∧
        ∀ d e', Derives .disjunction d (tokens.map (·.kind)) e' → 2 = d ∧ e = e' := by
  have hnot : Derives .disjunction 2 [.not, .keyword .clean] (.not (.atom .clean)) :=
    .disjunction (.conjunction (.not (.operand (.test .clean))))
  have hgroup : Derives .primary 1 [.leftParen, .keyword .unlabeled, .rightParen]
      (.atom .unlabeled) :=
    .group (.disjunction (.conjunction (.operand (.test .unlabeled))))
  have hderives : Derives .disjunction 2 [.not, .keyword .clean, .or, .keyword .explicit, .and,
      .leftParen, .keyword .unlabeled, .rightParen]
      (.or (.not (.atom .clean)) (.and (.atom .explicit) (.atom .unlabeled))) :=
    hnot.or (.and (.conjunction (.operand (.test .explicit))) (.operand hgroup))
  have hparse := parse_eq_ok_iff_derives
  refine ⟨[⟨.not, ⟨0, 0⟩⟩, ⟨.keyword .clean, ⟨0, 0⟩⟩, ⟨.or, ⟨0, 0⟩⟩, ⟨.keyword .explicit, ⟨0, 0⟩⟩,
    ⟨.and, ⟨0, 0⟩⟩, ⟨.leftParen, ⟨0, 0⟩⟩, ⟨.keyword .unlabeled, ⟨0, 0⟩⟩, ⟨.rightParen, ⟨0, 0⟩⟩],
    _, rfl, hderives, ?_, fun d e' => ?_⟩
  · exact (hparse.1 _ _).mpr ⟨2, by decide, hderives⟩
  · exact hparse.2 _ _ _ _ _ hderives

end TrackCriteria.Parser
