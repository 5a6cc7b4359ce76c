import TrackCriteria.Criteria.DateLiteral
import TrackCriteria.Token
import Mathlib.Tactic.Common

/-!
# The grammar of criteria

`Derives rule d ks e` says that the tokens of the kinds `ks` spell `e` by a rule of the grammar. The
chains of `&&` and `||` are folded to the left, and parentheses leave no trace in `e`.

The number `d` counts how deep operands are nested in the derivation: an operand counts for one more
than what follows its `!` or stands between its parentheses, and a chain counts for as much as the
deepest of its operands.
-/

namespace TrackCriteria

/-- The kinds of tokens that a test is spelled with. -/
inductive Spells : List Token.Kind → Atom → Prop where
  | clean : Spells [.keyword .clean] .clean
  | explicit : Spells [.keyword .explicit] .explicit
  | unlabeled : Spells [.keyword .unlabeled] .unlabeled
  | text (field : TextField) (value : String) :
    Spells [.keyword (.text field), .colon, .string value] (.text field value)
  | date (field : DateField) (op : Comparison) {literal : String} {value : DateSpec}
    (h : DateSpec.ofLiteral? literal.toList = some value) :
    Spells [.keyword (.date field), .comparison op, .value literal] (.date field op value)

/-- The rules of the grammar. -/
inductive Rule where
  | disjunction
  | conjunction
  | operand
  | primary
deriving DecidableEq

/-- The kinds of tokens that criteria are spelled with by a rule of the grammar, and how deep
operands are nested. -/
inductive Derives : Rule → Nat → List Token.Kind → Criteria → Prop where
  /-- A conjunction is a disjunction of one. -/
  | disjunction {d : Nat} {ks : List Token.Kind} {e : Criteria} :
    Derives .conjunction d ks e → Derives .disjunction d ks e
  /-- A disjunction goes on after `||`. -/
  | or {d d' : Nat} {ks ks' : List Token.Kind} {left right : Criteria} :
    Derives .disjunction d ks left → Derives .conjunction d' ks' right →
      Derives .disjunction (max d d') (ks ++ .or :: ks') (.or left right)
  /-- An operand is a conjunction of one. -/
  | conjunction {d : Nat} {ks : List Token.Kind} {e : Criteria} :
    Derives .operand d ks e → Derives .conjunction d ks e
  /-- A conjunction goes on after `&&`. -/
  | and {d d' : Nat} {ks ks' : List Token.Kind} {left right : Criteria} :
    Derives .conjunction d ks left → Derives .operand d' ks' right →
      Derives .conjunction (max d d') (ks ++ .and :: ks') (.and left right)
  /-- A primary expression is an operand. -/
  | operand {d : Nat} {ks : List Token.Kind} {e : Criteria} :
    Derives .primary d ks e → Derives .operand (d + 1) ks e
  /-- An operand may be negated. -/
  | not {d : Nat} {ks : List Token.Kind} {e : Criteria} :
    Derives .operand d ks e → Derives .operand (d + 1) (.not :: ks) (.not e)
  /-- A disjunction may be put in parentheses. -/
  | group {d : Nat} {ks : List Token.Kind} {e : Criteria} :
    Derives .disjunction d ks e → Derives .primary d (.leftParen :: (ks ++ [.rightParen])) e
  /-- A test is a primary expression. -/
  | test {ks : List Token.Kind} {a : Atom} : Spells ks a → Derives .primary 0 ks (.atom a)

/-! ### How derivations start -/

theorem Spells.keyword_head {ks : List Token.Kind} {a : Atom} (h : Spells ks a) :
    ∃ k ks', ks = .keyword k :: ks' := by
  cases h <;> exact ⟨_, _, rfl⟩

/-- A primary expression does not start with `!`. -/
theorem Derives.primary_head {d : Nat} {ks : List Token.Kind} {e : Criteria}
    (h : Derives .primary d ks e) : ∃ k ks', ks = k :: ks' ∧ k ≠ .not := by
  cases h with
  | group h => exact ⟨_, _, rfl, by rintro ⟨⟩⟩
  | test h =>
    obtain ⟨k, ks', rfl⟩ := h.keyword_head
    exact ⟨_, _, rfl, by rintro ⟨⟩⟩

theorem Derives.ne_nil {rule : Rule} {d : Nat} {ks : List Token.Kind} {e : Criteria}
    (h : Derives rule d ks e) : ks ≠ [] := by
  -- Each rule adds an operator, a parenthesis or a word, or passes on what it has.
  induction h with
  | disjunction _ ih => exact ih
  | or => exact List.append_ne_nil_of_right_ne_nil _ (List.cons_ne_nil _ _)
  | conjunction _ ih => exact ih
  | and => exact List.append_ne_nil_of_right_ne_nil _ (List.cons_ne_nil _ _)
  | operand _ ih => exact ih
  | not => exact List.cons_ne_nil _ _
  | group => exact List.cons_ne_nil _ _
  | test h =>
    obtain ⟨k, ks', rfl⟩ := h.keyword_head
    exact List.cons_ne_nil _ _

/-! ### The tests of a derivation -/

/-- Every test in what is derived is spelled by some of the tokens. -/
theorem Derives.exists_spells {rule : Rule} {d : Nat} {ks : List Token.Kind} {e : Criteria}
    (h : Derives rule d ks e) {a : Atom} (ha : a ∈ e.atoms) : ∃ ks', ks' ⊆ ks ∧ Spells ks' a := by
  have hwiden : ∀ {ks ks' : List Token.Kind}, ks ⊆ ks' → (∃ part, part ⊆ ks ∧ Spells part a) →
      ∃ part, part ⊆ ks' ∧ Spells part a :=
    fun hsubset ⟨part, hpart, hspells⟩ => ⟨part, List.Subset.trans hpart hsubset, hspells⟩
  have hright : ∀ (ks ks' : List Token.Kind) (k : Token.Kind), ks' ⊆ ks ++ k :: ks' :=
    fun _ _ _ => List.Subset.trans (List.subset_cons_self _ _) (List.subset_append_right _ _)
  -- The spelling of a test is found where the derivation ends, and handed up through the rules.
  induction h with
  | disjunction _ ih => exact ih ha
  | or _ _ ihl ihr =>
    obtain hl | hr := List.mem_append.mp ha
    · exact hwiden (List.subset_append_left _ _) (ihl hl)
    · exact hwiden (hright _ _ _) (ihr hr)
  | conjunction _ ih => exact ih ha
  | and _ _ ihl ihr =>
    obtain hl | hr := List.mem_append.mp ha
    · exact hwiden (List.subset_append_left _ _) (ihl hl)
    · exact hwiden (hright _ _ _) (ihr hr)
  | operand _ ih => exact ih ha
  | not _ ih => exact hwiden (List.subset_cons_self _ _) (ih ha)
  | group _ ih =>
    exact hwiden (List.Subset.trans (List.subset_append_left _ _) (List.subset_cons_self _ _))
      (ih ha)
  | test h =>
    obtain rfl := List.mem_singleton.mp ha
    exact ⟨_, List.Subset.refl _, h⟩

end TrackCriteria
