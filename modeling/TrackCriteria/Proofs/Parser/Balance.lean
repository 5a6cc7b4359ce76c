import TrackCriteria.Proofs.Parser.Grammar
import Mathlib.Data.List.Basic

/-!
# Balanced parentheses

Tokens are balanced if they close as many parentheses as they open and no front of them closes more
than it opens (`IsBalanced`). What is derived by any rule is balanced (`Derives.isBalanced`). A
parenthesis is closed by the first closing one that has only balanced tokens between the two
(`IsClosedIn`); that is so iff some front of the tokens behind it closes more than it opens
(`ClosesOwn.not_isClosedIn`, `isClosedIn_of_count_lt`).
-/

namespace TrackCriteria

variable {ks ks' : List Token.Kind} {k : Token.Kind}

/-! ### Opening and closing -/

/-- Whether no front of the tokens closes more parentheses than it opens. -/
def ClosesOwn (ks : List Token.Kind) : Prop :=
  ∀ n, (ks.take n).count .rightParen ≤ (ks.take n).count .leftParen

/-- Whether the tokens close as many parentheses as they open, and no front of them closes more. -/
structure IsBalanced (ks : List Token.Kind) : Prop where
  count_eq : ks.count .rightParen = ks.count .leftParen
  closesOwn : ClosesOwn ks

/-- Whether a parenthesis in front of the tokens is closed by one of them. -/
def IsClosedIn (ks : List Token.Kind) : Prop :=
  ∃ inner rest, ks = inner ++ .rightParen :: rest ∧ IsBalanced inner

theorem ClosesOwn.append (h : ClosesOwn ks) (h' : ClosesOwn ks') : ClosesOwn (ks ++ ks') := by
  intro n
  have hleft := h n
  have hright := h' (n - ks.length)
  rw [List.take_append, List.count_append, List.count_append]
  omega

theorem ClosesOwn.cons (h : ClosesOwn ks) (hk : k ≠ .rightParen) : ClosesOwn (k :: ks) := by
  intro n
  cases n with
  | zero => simp
  | succ n =>
    have hrest := h n
    rw [List.take_succ_cons, List.count_cons_of_ne hk, List.count_cons]
    omega

theorem isBalanced_nil : IsBalanced [] :=
  ⟨rfl, fun n => by simp⟩

theorem IsBalanced.append (h : IsBalanced ks) (h' : IsBalanced ks') : IsBalanced (ks ++ ks') := by
  refine ⟨?_, h.closesOwn.append h'.closesOwn⟩
  rw [List.count_append, List.count_append, h.count_eq, h'.count_eq]

theorem IsBalanced.cons (h : IsBalanced ks) (hleft : k ≠ .leftParen) (hright : k ≠ .rightParen) :
    IsBalanced (k :: ks) := by
  refine ⟨?_, h.closesOwn.cons hright⟩
  rw [List.count_cons_of_ne hleft, List.count_cons_of_ne hright, h.count_eq]

theorem isBalanced_of_notMem (hleft : .leftParen ∉ ks) (hright : .rightParen ∉ ks) :
    IsBalanced ks := by
  induction ks with
  | nil => exact isBalanced_nil
  | cons k ks ih =>
    rw [List.mem_cons, not_or] at hleft hright
    exact (ih hleft.2 hright.2).cons (Ne.symm hleft.1) (Ne.symm hright.1)

theorem IsBalanced.group (h : IsBalanced ks) :
    IsBalanced (.leftParen :: (ks ++ [.rightParen])) := by
  constructor
  · simp [h.count_eq]
  · intro n
    -- Any front has the opening parenthesis, some front of what is inside, and at most the closing
    -- one.
    cases n with
    | zero => simp
    | succ n =>
      have hinner := h.closesOwn n
      have hclose : (List.take (n - ks.length) [Token.Kind.rightParen]).count .rightParen ≤ 1 :=
        Nat.le_trans List.count_le_length (List.length_take_le' _ _)
      rw [List.take_succ_cons, List.take_append, List.count_cons_self,
        List.count_cons_of_ne (by rintro ⟨⟩), List.count_append, List.count_append]
      omega

/-! ### Which parentheses are closed -/

/-- Tokens that close only what they open close nothing in front of them. -/
theorem ClosesOwn.not_isClosedIn (h : ClosesOwn ks) : ¬IsClosedIn ks := by
  rintro ⟨inner, rest, rfl, hinner⟩
  have hfront := h (inner.length + 1)
  have htake : (inner ++ .rightParen :: rest).take (inner.length + 1) = inner ++ [.rightParen] := by
    rw [List.take_append, List.take_of_length_le (Nat.le_succ _), Nat.add_sub_cancel_left]
    rfl
  have hnone : [Token.Kind.rightParen].count .leftParen = 0 := by decide
  rw [htake, List.count_append, List.count_append, hinner.count_eq, hnone,
    List.count_singleton_self] at hfront
  omega

/-- With `m` parentheses open in front of them, tokens that close more than all of these have one
that comes first to close more. -/
theorem exists_closing {m : Nat} (h : ks.count .leftParen + m < ks.count .rightParen) :
    ∃ inner rest, ks = inner ++ .rightParen :: rest ∧
      inner.count .rightParen = inner.count .leftParen + m ∧
      ∀ n, (inner.take n).count .rightParen ≤ (inner.take n).count .leftParen + m := by
  induction ks generalizing m with
  | nil => simp at h
  | cons k ks ih =>
    by_cases hclosing : k = .rightParen ∧ m = 0
    · obtain ⟨rfl, rfl⟩ := hclosing
      exact ⟨[], ks, rfl, rfl, fun n => by simp⟩
    · -- Behind `k`, one less is open or one more.
      obtain ⟨m', hm'⟩ : ∃ m', m' + (if k == .rightParen then 1 else 0) =
          m + (if k == .leftParen then 1 else 0) := by
        by_cases hk : k = .rightParen
        · refine ⟨m - 1, ?_⟩
          have hm : m ≠ 0 := fun hm => hclosing ⟨hk, hm⟩
          subst hk
          simp
          omega
        · exact ⟨m + if k == .leftParen then 1 else 0, by simp [hk]⟩
      rw [List.count_cons, List.count_cons] at h
      obtain ⟨inner, rest, rfl, hcount, hfront⟩ := ih (m := m') (by omega)
      refine ⟨k :: inner, rest, rfl, ?_, fun n => ?_⟩
      · rw [List.count_cons, List.count_cons]
        omega
      · cases n with
        | zero => simp
        | succ n =>
          have hinner := hfront n
          rw [List.take_succ_cons, List.count_cons, List.count_cons]
          omega

/-- Tokens that close more than they open close what is opened right in front of them. -/
theorem isClosedIn_of_count_lt (h : ks.count .leftParen < ks.count .rightParen) :
    IsClosedIn ks := by
  obtain ⟨inner, rest, hks, hcount, hfront⟩ := exists_closing (m := 0) h
  exact ⟨inner, rest, hks, hcount, hfront⟩

/-- Behind a parenthesis that is opened among balanced tokens, more is closed than opened. -/
theorem IsBalanced.count_lt_of_append {ks ks' : List Token.Kind}
    (h : IsBalanced (ks ++ .leftParen :: ks')) : ks'.count .leftParen < ks'.count .rightParen := by
  have hcount := h.count_eq
  have hfront := h.closesOwn ks.length
  rw [List.take_left] at hfront
  simp [List.count_append] at hcount
  omega

/-! ### Derivations -/

theorem Spells.isBalanced {a : Atom} (h : Spells ks a) : IsBalanced ks := by
  cases h <;> exact isBalanced_of_notMem (by simp) (by simp)

/-- What a rule derives closes all its parentheses, and no others. -/
theorem Derives.isBalanced {rule : Rule} {d : Nat} {e : Criteria} (h : Derives rule d ks e) :
    IsBalanced ks := by
  induction h with
  | disjunction _ ih => exact ih
  | or _ _ ihl ihr => exact ihl.append (ihr.cons (by rintro ⟨⟩) (by rintro ⟨⟩))
  | conjunction _ ih => exact ih
  | and _ _ ihl ihr => exact ihl.append (ihr.cons (by rintro ⟨⟩) (by rintro ⟨⟩))
  | operand _ ih => exact ih
  | not _ ih => exact ih.cons (by rintro ⟨⟩) (by rintro ⟨⟩)
  | group _ ih => exact ih.group
  | test h => exact h.isBalanced

end TrackCriteria
