import TrackCriteria.Proofs.Sql.Reader
import Mathlib.Tactic.Common

/-!
# The grammar of statements

`Phrase level ls t` says that the lexemes `ls` are written for the term `t` where the grammar asks
for the level. The reader takes every phrase from the front of what it is given (`Phrase.takes`),
provided that what comes next does not bind as tight as the phrase itself: an operand that `AND`
comes after is complete, but not one that a comparison comes after.
-/

namespace TrackCriteria.Sql

/-! ### The grammar -/

/-- What the grammar asks for. -/
inductive Level where
  | reference
  | result
  | source
  | selection
  | primary
  | test
  | operand
  | conjunction
  | disjunction

/-- The lexemes of a term at a level of the grammar. -/
inductive Phrase : Level → List Lexeme → Term → Prop where
  | column (c : Column) : Phrase .reference [.name c.table, .dot, .name c.name] (.column c)
  | place (n : Nat) : Phrase .reference [.place n] (.place n)
  | star (table : String) : Phrase .result [.name table, .dot, .star] (.star table)
  | result {ls : List Lexeme} {t : Term} : Phrase .reference ls t → Phrase .result ls t
  | table (name : String) : Phrase .source [.name name] (.table name)
  | joined (first second : String) {ls : List Lexeme} {t : Term} : Phrase .disjunction ls t →
    Phrase .source (.name first :: .word .inner :: .word .join :: .name second :: .word .on :: ls)
      (.joined (.table first) second t)
  | select {ls ls' ls'' : List Lexeme} {result source condition : Term} :
    Phrase .result ls result → Phrase .source ls' source → Phrase .disjunction ls'' condition →
      Phrase .selection (.word .select :: (ls ++ .word .from :: (ls' ++ .word .where :: ls'')))
        (.select result source condition)
  | primary {ls : List Lexeme} {t : Term} : Phrase .reference ls t → Phrase .primary ls t
  | group {ls : List Lexeme} {t : Term} :
    Phrase .disjunction ls t → Phrase .primary (.leftParen :: (ls ++ [.rightParen])) t
  | existence {ls : List Lexeme} {q : Term} : Phrase .selection ls q →
    Phrase .primary (.word .exists :: .leftParen :: (ls ++ [.rightParen])) (.exists q)
  | test {ls : List Lexeme} {t : Term} : Phrase .primary ls t → Phrase .test ls t
  | comparison (op : Comparison) {ls ls' : List Lexeme} {left right : Term} :
    Phrase .primary ls left → Phrase .primary ls' right →
      Phrase .test (ls ++ .comparison op :: ls') (.comparison op left right)
  | member {ls ls' : List Lexeme} {t q : Term} : Phrase .primary ls t → Phrase .selection ls' q →
    Phrase .test (ls ++ .word .in :: .leftParen :: (ls' ++ [.rightParen])) (.member t q)
  | operand {ls : List Lexeme} {t : Term} : Phrase .test ls t → Phrase .operand ls t
  | not {ls : List Lexeme} {t : Term} :
    Phrase .operand ls t → Phrase .operand (.word .not :: ls) (.not t)
  | conjunction {ls : List Lexeme} {t : Term} : Phrase .operand ls t → Phrase .conjunction ls t
  | and {ls ls' : List Lexeme} {left right : Term} : Phrase .conjunction ls left →
    Phrase .operand ls' right → Phrase .conjunction (ls ++ .word .and :: ls') (.and left right)
  | disjunction {ls : List Lexeme} {t : Term} :
    Phrase .conjunction ls t → Phrase .disjunction ls t
  | or {ls ls' : List Lexeme} {left right : Term} : Phrase .disjunction ls left →
    Phrase .conjunction ls' right → Phrase .disjunction (ls ++ .word .or :: ls') (.or left right)

/-! ### What comes next -/

/-- How tight an operator binds what stands before it. -/
def Lexeme.binding : Lexeme → Nat
  | .comparison _ => 3
  | .word .in => 3
  | .word .and => 2
  | .word .or => 1
  | _ => 0

/-- Whether no operator comes next that binds as tight as `k`. -/
def Ends (k : Nat) (rest : List Lexeme) : Prop :=
  ∀ l ∈ rest.head?, l.binding < k

theorem Ends.mono {k k' : Nat} {rest : List Lexeme} (h : Ends k rest) (hle : k ≤ k') :
    Ends k' rest :=
  fun l hl => Nat.lt_of_lt_of_le (h l hl) hle

theorem ends_cons {k : Nat} {l : Lexeme} (h : l.binding < k) (rest : List Lexeme) :
    Ends k (l :: rest) := by
  rintro _ ⟨⟩
  exact h

namespace Reader

variable {ls ls' rest : List Lexeme} {t t' : Term} {item inner : Reader} {w : Word}
  {join : Term → Term → Term} {bound levels : Nat}

/-! ### Parts of the reader -/

theorem inParens_of_reads (h : inner (ls ++ .rightParen :: rest) = some (t, .rightParen :: rest)) :
    inParens inner (.leftParen :: (ls ++ [.rightParen]) ++ rest) = some (t, rest) := by
  rw [List.cons_append, List.append_assoc, List.singleton_append, inParens, h]

theorem links_of_ends {k : Nat} (h : Ends k rest) (hk : k ≤ (Lexeme.word w).binding) :
    links w join item bound t rest = some (t, rest) := by
  unfold links
  split
  · rename_i bound left w' ls
    have hne : w' ≠ w := by
      rintro rfl
      exact Nat.not_lt.mpr hk (h _ rfl)
    rw [if_neg hne]
  · rfl

theorem links_cons (h : item (ls ++ rest) = some (t', rest)) :
    links w join item (bound + 1) t (.word w :: (ls ++ rest)) =
      links w join item bound (join t t') rest := by
  rw [links, if_pos rfl, h]
  rfl

theorem chain_of_item (h : item (ls ++ rest) = some (t, rest)) :
    chain w join item (ls ++ rest) = links w join item rest.length t rest := by
  rw [chain, h]
  rfl

/-! ### The reader takes every phrase -/

/-- The reader takes a term from the front, with at most so many levels of parentheses left. A chain
is left at the link after what was taken. -/
def Takes (levels : Nat) : Level → List Lexeme → Term → Prop
  | .reference, ls, t => ∀ rest, reference (ls ++ rest) = some (t, rest)
  | .result, ls, t => ∀ rest, result (ls ++ rest) = some (t, rest)
  | .source, ls, t => ∀ rest,
    source (expression levels) (ls ++ .word .where :: rest) = some (t, .word .where :: rest)
  | .selection, ls, t => ∀ rest, Ends 1 rest →
    selection (expression levels) (ls ++ rest) = some (t, rest)
  | .primary, ls, t => ∀ rest, primary (expression levels) (ls ++ rest) = some (t, rest)
  | .test, ls, t => ∀ rest, Ends 3 rest → test (expression levels) (ls ++ rest) = some (t, rest)
  | .operand, ls, t => ∀ rest, Ends 3 rest →
    operand (expression levels) (ls ++ rest) = some (t, rest)
  | .conjunction, ls, t => ∀ rest, Ends 3 rest → ∃ bound, rest.length ≤ bound ∧
    conjunction (expression levels) (ls ++ rest) =
      links .and .and (operand (expression levels)) bound t rest
  | .disjunction, ls, t => ∀ rest, Ends 2 rest → ∃ bound, rest.length ≤ bound ∧
    disjunction (expression levels) (ls ++ rest) =
      links .or .or (conjunction (expression levels)) bound t rest

/-- An expression is a disjunction with a level of parentheses less. -/
theorem expression_of_takes (h : ∀ levels, ls.length ≤ levels → Takes levels .disjunction ls t)
    (hlt : ls.length < levels) (hrest : Ends 1 rest) :
    expression levels (ls ++ rest) = some (t, rest) := by
  cases levels with
  | zero => cases hlt
  | succ levels =>
    obtain ⟨bound, -, hlinks⟩ := h levels (Nat.le_of_lt_succ hlt) rest (hrest.mono (by decide))
    rw [expression, hlinks, links_of_ends hrest (by decide)]

/-- A joined table is taken with the condition of the join. -/
theorem takes_joined (first second : String)
    (h : ∀ levels, ls.length ≤ levels → Takes levels .disjunction ls t) (hlt : ls.length < levels) :
    Takes levels .source
      (.name first :: .word .inner :: .word .join :: .name second :: .word .on :: ls)
      (.joined (.table first) second t) := by
  intro rest
  have hread : expression levels (ls ++ .word .where :: rest) = some (t, .word .where :: rest) :=
    expression_of_takes h hlt (ends_cons (by decide) _)
  simp only [List.cons_append, source, hread]
  rfl

theorem takes_select {ls'' : List Lexeme} {t'' : Term} (h : Takes levels .result ls t)
    (h' : Takes levels .source ls' t')
    (h'' : ∀ levels, ls''.length ≤ levels → Takes levels .disjunction ls'' t'')
    (hlt : ls''.length < levels) :
    Takes levels .selection
      (.word .select :: (ls ++ .word .from :: (ls' ++ .word .where :: ls'')))
      (.select t t' t'') := by
  intro rest hrest
  have hresult := h (.word .from :: (ls' ++ .word .where :: (ls'' ++ rest)))
  have hsource := h' (ls'' ++ rest)
  have hcondition := expression_of_takes h'' hlt hrest
  simp only [List.cons_append, List.append_assoc, selection, hresult, hsource, hcondition,
    Option.bind_eq_bind, Option.bind_some]
  rfl

theorem takes_group (h : ∀ levels, ls.length ≤ levels → Takes levels .disjunction ls t)
    (hlt : ls.length < levels) :
    Takes levels .primary (.leftParen :: (ls ++ [.rightParen])) t := by
  intro rest
  have hread : expression levels (ls ++ .rightParen :: rest) = some (t, .rightParen :: rest) :=
    expression_of_takes h hlt (ends_cons (by decide) _)
  exact inParens_of_reads hread

theorem inParens_selection (h : Takes levels .selection ls t) (rest : List Lexeme) :
    inParens (selection (expression levels)) (.leftParen :: (ls ++ [.rightParen]) ++ rest) =
      some (t, rest) :=
  inParens_of_reads (h _ (ends_cons (by decide) _))

theorem takes_exists (h : Takes levels .selection ls t) :
    Takes levels .primary (.word .exists :: .leftParen :: (ls ++ [.rightParen])) (.exists t) := by
  intro rest
  rw [List.cons_append, primary, inParens_selection h]
  rfl

theorem takes_test (h : Takes levels .primary ls t) : Takes levels .test ls t := by
  intro rest hrest
  unfold test
  rw [h, Option.bind_eq_bind, Option.bind_some]
  dsimp only
  split
  · exact absurd (hrest _ rfl) (Nat.lt_irrefl 3)
  · exact absurd (hrest _ rfl) (Nat.lt_irrefl 3)
  · rfl

theorem takes_comparison (op : Comparison) (h : Takes levels .primary ls t)
    (h' : Takes levels .primary ls' t') :
    Takes levels .test (ls ++ .comparison op :: ls') (.comparison op t t') := by
  intro rest _
  rw [List.append_assoc, List.cons_append, test, h, Option.bind_eq_bind, Option.bind_some]
  dsimp only
  rw [h']
  rfl

theorem takes_member (h : Takes levels .primary ls t) (h' : Takes levels .selection ls' t') :
    Takes levels .test (ls ++ .word .in :: .leftParen :: (ls' ++ [.rightParen]))
      (.member t t') := by
  intro rest _
  rw [List.append_assoc, List.cons_append, test, h, Option.bind_eq_bind, Option.bind_some]
  dsimp only
  rw [inParens_selection h']
  rfl

/-- No test starts with `NOT`. -/
theorem takes_operand (h : Takes levels .test ls t) : Takes levels .operand ls t := by
  intro rest hrest
  have hread := h rest hrest
  unfold operand
  split
  · rename_i heq
    rw [heq] at hread
    cases hread
  · exact hread

/-- Where a chain is left at a link, the link is taken with its item. -/
theorem exists_links {reader : Reader}
    (h : ∃ bound, (.word w :: (ls' ++ rest)).length ≤ bound ∧
      reader (ls ++ .word w :: (ls' ++ rest)) =
        links w join item bound t (.word w :: (ls' ++ rest)))
    (hitem : item (ls' ++ rest) = some (t', rest)) :
    ∃ bound, rest.length ≤ bound ∧
      reader (ls ++ .word w :: ls' ++ rest) = links w join item bound (join t t') rest := by
  obtain ⟨bound, hle, hlinks⟩ := h
  rw [List.length_cons, List.length_append] at hle
  rw [List.append_assoc, List.cons_append]
  cases bound with
  | zero => cases hle
  | succ bound => exact ⟨bound, by omega, hlinks.trans (links_cons hitem)⟩

theorem takes_and (h : Takes levels .conjunction ls t) (h' : Takes levels .operand ls' t') :
    Takes levels .conjunction (ls ++ .word .and :: ls') (.and t t') :=
  fun rest hrest => exists_links (h _ (ends_cons (by decide) _)) (h' rest hrest)

theorem takes_or (h : Takes levels .disjunction ls t) (h' : Takes levels .conjunction ls' t') :
    Takes levels .disjunction (ls ++ .word .or :: ls') (.or t t') := by
  intro rest hrest
  obtain ⟨bound, -, hlinks⟩ := h' rest (hrest.mono (by decide))
  rw [links_of_ends hrest (by decide)] at hlinks
  exact exists_links (h _ (ends_cons (by decide) _)) hlinks

/-- A disjunction of one conjunction, which `AND` does not come after. -/
theorem takes_disjunction (h : Takes levels .conjunction ls t) :
    Takes levels .disjunction ls t := by
  intro rest hrest
  obtain ⟨bound, -, hlinks⟩ := h rest (hrest.mono (by decide))
  rw [links_of_ends hrest (by decide)] at hlinks
  exact ⟨_, Nat.le_refl _, chain_of_item hlinks⟩

end Reader

open Reader in
/-- The reader takes every phrase, if there are as many levels of parentheses left as lexemes. -/
theorem Phrase.takes {level : Level} {ls : List Lexeme} {t : Term} (h : Phrase level ls t) :
    ∀ levels, ls.length ≤ levels → Takes levels level ls t := by
  -- By induction on the phrase, for all levels that are enough. Each expression inside of another
  -- one takes a level, and it has fewer lexemes than the phrase around it.
  induction h with
  | column c => exact fun _ _ _ => rfl
  | place n => exact fun _ _ _ => rfl
  | star table => exact fun _ _ _ => rfl
  | table name => exact fun _ _ _ => rfl
  | result h ih =>
    -- A reference is a column or a place, which the reader tells by their first lexemes.
    intro levels hle rest
    cases h <;> exact ih levels hle rest
  | primary h ih =>
    intro levels hle rest
    cases h <;> exact ih levels hle rest
  | joined first second _ ih =>
    intro levels hle
    simp only [List.length_cons] at hle
    exact takes_joined first second ih (by omega)
  | select _ _ _ ih ih' ih'' =>
    intro levels hle
    simp only [List.length_cons, List.length_append] at hle
    exact takes_select (ih levels (by omega)) (ih' levels (by omega)) ih'' (by omega)
  | group _ ih =>
    intro levels hle
    simp only [List.length_cons, List.length_append] at hle
    exact takes_group ih (by omega)
  | existence _ ih =>
    intro levels hle
    simp only [List.length_cons, List.length_append] at hle
    exact takes_exists (ih levels (by omega))
  | test _ ih => exact fun levels hle => takes_test (ih levels hle)
  | comparison op _ _ ih ih' =>
    intro levels hle
    simp only [List.length_cons, List.length_append] at hle
    exact takes_comparison op (ih levels (by omega)) (ih' levels (by omega))
  | member _ _ ih ih' =>
    intro levels hle
    simp only [List.length_cons, List.length_append] at hle
    exact takes_member (ih levels (by omega)) (ih' levels (by omega))
  | operand _ ih => exact fun levels hle => takes_operand (ih levels hle)
  | not _ ih =>
    -- The operand behind a negation is read with the same levels.
    intro levels hle rest hrest
    have hread := ih levels (Nat.le_of_succ_le hle) rest hrest
    rw [List.cons_append, Reader.operand, hread]
    rfl
  | conjunction _ ih =>
    -- A chain may go on behind its first item, so what it takes depends on what follows.
    exact fun levels hle rest hrest => ⟨_, Nat.le_refl _, chain_of_item (ih levels hle rest hrest)⟩
  | and _ _ ih ih' =>
    intro levels hle
    simp only [List.length_cons, List.length_append] at hle
    exact takes_and (ih levels (by omega)) (ih' levels (by omega))
  | disjunction _ ih => exact fun levels hle => takes_disjunction (ih levels hle)
  | or _ _ ih ih' =>
    intro levels hle
    simp only [List.length_cons, List.length_append] at hle
    exact takes_or (ih levels (by omega)) (ih' levels (by omega))

/-- `NOT $1 = $2 AND $3 OR $4` is a disjunction, its left operand a conjunction, and so on. -/
example : Reader.expression 1 [.word .not, .place 1, .comparison .eq, .place 2, .word .and,
    .place 3, .word .or, .place 4] = some (.or (.and (.not (.comparison .eq (.place 1) (.place 2)))
      (.place 3)) (.place 4), []) := by
  decide +kernel

/-- A selection is read as a statement, with a limit or without one. -/
theorem Phrase.ofLexemes? {ls : List Lexeme} {t : Term} (h : Phrase .selection ls t) :
    Statement.ofLexemes? ls = some ⟨t, none⟩ ∧
      ∀ n, Statement.ofLexemes? (ls ++ [.word .limit, .place n]) = some ⟨t, some (.place n)⟩ := by
  constructor
  · have hread := h.takes ls.length (Nat.le_refl _) [] (by rintro l ⟨⟩)
    rw [List.append_nil] at hread
    rw [Statement.ofLexemes?, hread]
  · intro n
    have hread := h.takes (ls ++ [Lexeme.word .limit, .place n]).length (by simp)
      [.word .limit, .place n] (ends_cons (by decide) _)
    rw [Statement.ofLexemes?, hread]

end TrackCriteria.Sql
