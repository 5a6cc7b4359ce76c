import TrackCriteria.Proofs.Criteria.DateLiteral
import TrackCriteria.Proofs.Parser.Source

/-!
# Reading canonical texts

A canonical text is scanned as the tokens of `spelling` (`scans_canonical`), which derive the
criteria with operands nested as deep as `nesting` says (`derives_spelling`). So the text is read as
what it is made from unless that is too deep (`parse_canonical`). What is read from a source is
always expressible (`isExpressible_of_parse`), so no other criteria can be read from their text.
-/

namespace TrackCriteria

open Text (isValueChar isWordChar)
open Token (kinds)

/-! ### Criteria that can be written -/

/-- Whether a test can be written: there is no way to put a quote into a quoted text. -/
def Atom.IsExpressible : Atom → Prop
  | .text _ value => '"' ∉ value.toList
  | .date _ _ value => value.IsExpressible
  | _ => True

/-- Whether criteria can be written. -/
def Criteria.IsExpressible (e : Criteria) : Prop :=
  ∀ a ∈ e.atoms, a.IsExpressible

/-- What is derived can be written if there is no quote in the quoted texts among the tokens. -/
theorem Derives.isExpressible {rule : Rule} {d : Nat} {ks : List Token.Kind} {e : Criteria}
    (h : Derives rule d ks e) (hks : ∀ text, .string text ∈ ks → '"' ∉ text.toList) :
    e.IsExpressible := by
  intro a ha
  obtain ⟨ks', hsubset, hspells⟩ := h.exists_spells ha
  cases hspells with
  | text field value => exact hks value (hsubset (by simp))
  | date field op h => exact DateSpec.isExpressible_of_ofLiteral? h
  | _ => exact trivial

theorem Criteria.isExpressible_of_parse {source : String} {e : Criteria}
    (h : Criteria.parse source = .ok e) : e.IsExpressible := by
  obtain ⟨d, -, hderives⟩ := Criteria.parse_eq_ok.mp h
  exact hderives.isExpressible fun _ => Token.notMem_of_string_mem_kinds

/-! ### The tokens of canonical texts -/

/-- The kinds of the tokens of the canonical text of a test. -/
def Atom.spelling : Atom → List Token.Kind
  | .clean => [.keyword .clean]
  | .explicit => [.keyword .explicit]
  | .unlabeled => [.keyword .unlabeled]
  | .text field value => [.keyword (.text field), .colon, .string value]
  | .date field op value => [.keyword (.date field), .comparison op, .value value.canonical]

theorem Atom.spells_spelling {a : Atom} (h : a.IsExpressible) : Spells a.spelling a := by
  cases a with
  | clean => exact .clean
  | explicit => exact .explicit
  | unlabeled => exact .unlabeled
  | text field value => exact .text field value
  | date field op value => exact .date field op (DateSpec.ofLiteral?_canonical h)

namespace Criteria

/-- Puts the tokens of a compound formula in parentheses. -/
def enclose (p : Criteria) (ks : List Token.Kind) : List Token.Kind :=
  if p.isCompound then .leftParen :: (ks ++ [.rightParen]) else ks

/-- The kinds of the tokens of the canonical text of criteria. -/
def spelling : Criteria → List Token.Kind
  | .atom a => a.spelling
  | .not p => .not :: enclose p (spelling p)
  | .and p q => enclose p (spelling p) ++ .and :: enclose q (spelling q)
  | .or p q => enclose p (spelling p) ++ .or :: enclose q (spelling q)

/-- One level more for a compound formula, since it is in parentheses. -/
def deepen (p : Criteria) (levels : Nat) : Nat :=
  if p.isCompound then 1 + levels else levels

/-- How deep operands are nested in the canonical text of criteria. -/
def nesting : Criteria → Nat
  | .atom _ => 1
  | .not p => 1 + deepen p (nesting p)
  | .and p q => max (deepen p (nesting p)) (deepen q (nesting q))
  | .or p q => max (deepen p (nesting p)) (deepen q (nesting q))

/-- The tokens of the canonical text derive the criteria, both as a whole and as an operand. -/
theorem derives_spelling {e : Criteria} (h : e.IsExpressible) :
    Derives .disjunction e.nesting e.spelling e ∧
      Derives .operand (deepen e e.nesting) (enclose e e.spelling) e := by
  -- A compound formula is an operand in parentheses, any other one is an operand as it is.
  have hgroup : ∀ {d : Nat} {ks : List Token.Kind} {e : Criteria},
      Derives .disjunction d ks e →
        Derives .operand (1 + d) (.leftParen :: (ks ++ [.rightParen])) e := by
    intro d ks e h
    rw [Nat.add_comm]
    exact .operand (.group h)
  induction e with
  | atom a =>
    have hoperand : Derives .operand 1 a.spelling (.atom a) :=
      .operand (.test (Atom.spells_spelling (h a List.mem_cons_self)))
    exact ⟨.disjunction (.conjunction hoperand), hoperand⟩
  | not p ih =>
    have hoperand : Derives .operand (1 + deepen p (nesting p))
        (.not :: enclose p (spelling p)) (.not p) := by
      rw [Nat.add_comm]
      exact .not (ih h).2
    exact ⟨.disjunction (.conjunction hoperand), hoperand⟩
  | and p q ihp ihq =>
    obtain ⟨hp, hq⟩ := List.forall_mem_append.mp h
    have hand := (Derives.conjunction (ihp hp).2).and (ihq hq).2
    exact ⟨.disjunction hand, hgroup (.disjunction hand)⟩
  | or p q ihp ihq =>
    obtain ⟨hp, hq⟩ := List.forall_mem_append.mp h
    have hor := (Derives.disjunction (.conjunction (ihp hp).2)).or (.conjunction (ihq hq).2)
    exact ⟨hor, hgroup hor⟩

end Criteria

/-! ### Scanning canonical texts -/

namespace Token

/-- Whether words and values end in front of a text. -/
def IsBoundary (rest : List Char) : Prop :=
  ∀ c ∈ rest.head?, isWordChar c = false ∧ isValueChar c = false

theorem isBoundary_nil : IsBoundary [] := by
  rintro c ⟨⟩

theorem isBoundary_space (rest : List Char) : IsBoundary (' ' :: rest) := by
  rintro c ⟨⟩
  decide

theorem isBoundary_rightParen (rest : List Char) : IsBoundary (')' :: rest) := by
  rintro c ⟨⟩
  decide

/-- Whether a text has tokens of these kinds wherever words and values end after it. -/
def Scans (text : String) (ks : List Kind) : Prop :=
  ∀ rest, IsBoundary rest → kinds (text.toList ++ rest) = ks ++ kinds rest

variable {text text' : String} {ks ks' : List Kind}

theorem Scans.kinds_eq (h : Scans text ks) : kinds text.toList = ks := by
  have hkinds := h [] isBoundary_nil
  rwa [List.append_nil, kinds_nil, List.append_nil] at hkinds

theorem Scans.not (h : Scans text ks) : Scans ("!" ++ text) (.not :: ks) := by
  intro rest hrest
  rw [String.toList_append, List.append_assoc, List.cons_append, ← h rest hrest]
  exact kinds_not _

theorem Scans.group (h : Scans text ks) :
    Scans ("(" ++ text ++ ")") (.leftParen :: (ks ++ [.rightParen])) := by
  intro rest hrest
  have htext : kinds (text.toList ++ ')' :: rest) = ks ++ .rightParen :: kinds rest := by
    rw [h _ (isBoundary_rightParen rest), kinds_rightParen]
  rw [String.toList_append, String.toList_append, List.append_assoc, List.append_assoc,
    List.cons_append, List.append_assoc, List.singleton_append, ← htext]
  exact kinds_leftParen _

/-- Two texts with an operator in between that has blanks around it. -/
theorem Scans.join {op : String} {kind : Kind} (hspace : ∀ rest, IsBoundary (op.toList ++ rest))
    (hop : ∀ rest, kinds (op.toList ++ rest) = kind :: kinds rest) (h : Scans text ks)
    (h' : Scans text' ks') : Scans (text ++ op ++ text') (ks ++ kind :: ks') := by
  intro rest hrest
  rw [String.toList_append, String.toList_append, List.append_assoc, List.append_assoc,
    h _ (hspace _), hop, h' rest hrest, List.append_assoc, List.cons_append]

theorem Scans.and (h : Scans text ks) (h' : Scans text' ks') :
    Scans (text ++ " && " ++ text') (ks ++ .and :: ks') := by
  refine Scans.join (fun rest => isBoundary_space _) (fun rest => ?_) h h'
  show kinds (' ' :: '&' :: '&' :: ' ' :: rest) = _
  rw [kinds_of_isWhiteSpace (by decide), kinds_and, kinds_of_isWhiteSpace (by decide)]

theorem Scans.or (h : Scans text ks) (h' : Scans text' ks') :
    Scans (text ++ " || " ++ text') (ks ++ .or :: ks') := by
  refine Scans.join (fun rest => isBoundary_space _) (fun rest => ?_) h h'
  show kinds (' ' :: '|' :: '|' :: ' ' :: rest) = _
  rw [kinds_of_isWhiteSpace (by decide), kinds_or, kinds_of_isWhiteSpace (by decide)]

theorem scans_keyword (k : Keyword) : Scans k.word [.keyword k] :=
  fun _ hrest => kinds_keyword k fun c hc => (hrest c hc).1

end Token

open Token (Scans)

theorem Atom.scans_text (field : TextField) {value : String} (h : '"' ∉ value.toList) :
    Scans (Atom.text field value).canonical (Atom.text field value).spelling := by
  intro rest _
  have hquoted : kinds (':' :: '"' :: (value.toList ++ '"' :: rest)) =
      .colon :: .string value :: kinds rest := by
    rw [Token.kinds_colon, Token.kinds_string h, String.ofList_toList]
  have htext : (Atom.text field value).canonical.toList ++ rest =
      (Keyword.text field).word.toList ++ ':' :: '"' :: (value.toList ++ '"' :: rest) := by
    simp [canonical, quoteText, Keyword.word]
  rw [htext, Token.kinds_keyword _ (by rintro c ⟨⟩; decide), hquoted]
  rfl

theorem Atom.scans_date (field : DateField) (op : Comparison) {value : DateSpec}
    (h : value.IsExpressible) :
    Scans (Atom.date field op value).canonical (Atom.date field op value).spelling := by
  intro rest hrest
  obtain ⟨c, cs, hvalue, hc, hcs⟩ := DateSpec.toList_canonical_eq_cons h
  have hliteral : kinds (value.canonical.toList ++ rest) =
      .value value.canonical :: kinds rest := by
    rw [hvalue, List.cons_append, Token.kinds_value hc hcs fun c hc => (hrest c hc).2, ← hvalue,
      String.ofList_toList]
  -- A digit comes after the operator, so `<` and `>` are not read as `<=` and `>=`.
  have hne : (value.canonical.toList ++ rest).head? ≠ some '=' := by
    rw [hvalue]
    rintro ⟨⟩
    cases hc
  have htext : (Atom.date field op value).canonical.toList ++ rest =
      (Keyword.date field).word.toList ++
        (op.symbol.toList ++ (value.canonical.toList ++ rest)) := by
    rw [canonical, String.toList_append, String.toList_append, List.append_assoc,
      List.append_assoc]
    rfl
  have hop : ∀ c ∈ (op.symbol.toList ++ (value.canonical.toList ++ rest)).head?,
      isWordChar c = false := by
    cases op <;> rintro c ⟨⟩ <;> decide
  rw [htext, Token.kinds_keyword _ hop, Token.kinds_comparison op hne, hliteral]
  rfl

theorem Atom.scans_canonical {a : Atom} (h : a.IsExpressible) : Scans a.canonical a.spelling := by
  cases a with
  | clean => exact Token.scans_keyword .clean
  | explicit => exact Token.scans_keyword .explicit
  | unlabeled => exact Token.scans_keyword .unlabeled
  | text field value => exact Atom.scans_text field h
  | date field op value => exact Atom.scans_date field op h

namespace Criteria

theorem scans_parenthesize {p : Criteria} {text : String} {ks : List Token.Kind}
    (h : Scans text ks) : Scans (parenthesize p text) (enclose p ks) := by
  unfold parenthesize enclose
  split
  · exact h.group
  · exact h

/-- The canonical text has the tokens that it is to have. -/
theorem scans_canonical {e : Criteria} (h : e.IsExpressible) : Scans e.canonical e.spelling := by
  induction e with
  | atom a => exact Atom.scans_canonical (h a List.mem_cons_self)
  | not p ih => exact (scans_parenthesize (ih h)).not
  | and p q ihp ihq =>
    obtain ⟨hp, hq⟩ := List.forall_mem_append.mp h
    exact (scans_parenthesize (ihp hp)).and (scans_parenthesize (ihq hq))
  | or p q ihp ihq =>
    obtain ⟨hp, hq⟩ := List.forall_mem_append.mp h
    exact (scans_parenthesize (ihp hp)).or (scans_parenthesize (ihq hq))

/-! ### The round trip -/

theorem derives_canonical {e : Criteria} (h : e.IsExpressible) :
    Derives .disjunction e.nesting (kinds e.canonical.toList) e := by
  rw [(scans_canonical h).kinds_eq]
  exact (derives_spelling h).1

/-- Criteria that can be written are read from their canonical text unless the parentheses in it are
nested too deep. -/
theorem parse_canonical {e : Criteria} (h : e.IsExpressible) :
    (e.nesting ≤ maxDepth → Criteria.parse e.canonical = .ok e) ∧
      (maxDepth < e.nesting →
        ∃ span, Criteria.parse e.canonical = .error (.nestingTooDeep span)) :=
  parse_of_derives (derives_canonical h)

theorem parse_canonical_eq_ok {e : Criteria} (h : e.IsExpressible) :
    Criteria.parse e.canonical = .ok e ↔ e.nesting ≤ maxDepth := by
  constructor
  · intro hparse
    by_contra hdeep
    obtain ⟨span, herror⟩ := (parse_canonical h).2 (Nat.lt_of_not_le hdeep)
    rw [hparse] at herror
    cases herror
  · exact (parse_canonical h).1

/-- **Just the criteria that can be written are read from their canonical text**, unless the
parentheses in it are nested too deep. If they are, that is the error. -/
theorem parse_canonical_eq_ok_iff (e : Criteria) :
    (Criteria.parse e.canonical = .ok e ↔ e.IsExpressible ∧ e.nesting ≤ maxDepth) ∧
      (e.IsExpressible → maxDepth < e.nesting →
        ∃ span, Criteria.parse e.canonical = .error (.nestingTooDeep span)) := by
  refine ⟨⟨fun h => ?_, fun h => (parse_canonical h.1).1 h.2⟩, fun h => (parse_canonical h).2⟩
  have hexpressible := isExpressible_of_parse h
  exact ⟨hexpressible, (parse_canonical_eq_ok hexpressible).mp h⟩

/-- 256 negations of a test are one too many. -/
theorem parse_canonical_eq_ok_iff_negations :
    ∃ e : Criteria, e = Nat.repeat Formula.not 256 (.atom .clean) ∧ e.IsExpressible ∧
      maxDepth < e.nesting ∧ ∃ span, Criteria.parse e.canonical = .error (.nestingTooDeep span) := by
  have hexpressible : ∀ n, IsExpressible (Nat.repeat Formula.not n (.atom .clean)) := by
    intro n
    induction n with
    | zero => exact List.forall_mem_singleton.mpr trivial
    | succ n ih => exact ih
  have hdeep : maxDepth < nesting (Nat.repeat Formula.not 256 (.atom .clean)) := by
    decide +kernel
  exact ⟨_, rfl, hexpressible 256, hdeep,
    (parse_canonical_eq_ok_iff _).2 (hexpressible 256) hdeep⟩

end Criteria

end TrackCriteria
