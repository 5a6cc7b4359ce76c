/-!
# Boolean formulas

Formulas built from atoms of any kind by negation, conjunction and disjunction. Criteria as they
are written, predicates with every date resolved, and the conditions of a query are formulas over
three kinds of atoms, and each is made from the one before by replacing atoms.

Replacing atoms by formulas keeps the truth value when each replacement has the truth value of its
atom (`eval_bind`).
-/

namespace TrackCriteria

/-- A formula over the atoms `α`. -/
inductive Formula (α : Type) where
  | atom (a : α)
  | not (operand : Formula α)
  | and (left right : Formula α)
  | or (left right : Formula α)
deriving DecidableEq

namespace Formula

variable {α β : Type}

/-- The formula with each atom replaced by a formula. -/
def bind (f : α → Formula β) : Formula α → Formula β
  | .atom a => f a
  | .not p => .not (p.bind f)
  | .and p q => .and (p.bind f) (q.bind f)
  | .or p q => .or (p.bind f) (q.bind f)

/-- The truth value of a formula, given those of its atoms. -/
def eval (v : α → Bool) : Formula α → Bool
  | .atom a => v a
  | .not p => !p.eval v
  | .and p q => p.eval v && q.eval v
  | .or p q => p.eval v || q.eval v

/-- The atoms from left to right. -/
def atoms : Formula α → List α
  | .atom a => [a]
  | .not p => p.atoms
  | .and p q => p.atoms ++ q.atoms
  | .or p q => p.atoms ++ q.atoms

/-- Whether the formula is a conjunction or a disjunction. -/
def isCompound : Formula α → Bool
  | .atom _ => false
  | .not _ => false
  | .and _ _ => true
  | .or _ _ => true

theorem eval_bind (v : β → Bool) (f : α → Formula β) (p : Formula α) :
    (p.bind f).eval v = p.eval fun a => (f a).eval v := by
  induction p with
  | atom a => rfl
  | not p ih => simp [bind, eval, ih]
  | and p q ihp ihq => simp [bind, eval, ihp, ihq]
  | or p q ihp ihq => simp [bind, eval, ihp, ihq]

/-- Only the atoms that occur are replaced. -/
theorem bind_congr {f g : α → Formula β} {p : Formula α} (h : ∀ a ∈ p.atoms, f a = g a) :
    p.bind f = p.bind g := by
  induction p with
  | atom a => exact h a (by simp [atoms])
  | not p ih => simp [bind, ih h]
  | and p q ihp ihq =>
    simp only [atoms, List.mem_append] at h
    simp [bind, ihp fun a ha => h a (.inl ha), ihq fun a ha => h a (.inr ha)]
  | or p q ihp ihq =>
    simp only [atoms, List.mem_append] at h
    simp [bind, ihp fun a ha => h a (.inl ha), ihq fun a ha => h a (.inr ha)]

/-- The truth value depends on the values of the atoms that occur and on nothing else. -/
theorem eval_congr {v w : α → Bool} {p : Formula α} (h : ∀ a ∈ p.atoms, v a = w a) :
    p.eval v = p.eval w := by
  induction p with
  | atom a => exact h a (by simp [atoms])
  | not p ih => simp [eval, ih h]
  | and p q ihp ihq =>
    simp only [atoms, List.mem_append] at h
    simp [eval, ihp fun a ha => h a (.inl ha), ihq fun a ha => h a (.inr ha)]
  | or p q ihp ihq =>
    simp only [atoms, List.mem_append] at h
    simp [eval, ihp fun a ha => h a (.inl ha), ihq fun a ha => h a (.inr ha)]

end Formula

end TrackCriteria
