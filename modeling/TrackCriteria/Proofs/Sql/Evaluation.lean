import TrackCriteria.Sql.Query
import Mathlib.Data.List.Perm.Subperm
import Mathlib.Data.List.ProdSigma

/-!
# What a query means

A query is evaluated on tables of rows. A condition is evaluated where some rows are in sight, each
under the name of its table: the row that the query looks at, and inside of a subquery also the rows
of its own tables, which are searched first. A name that no row in sight has makes a condition
meaningless: its value is `none`, and so is that of everything around it.

Without an order, a query with a limit may answer with any selected rows, as long as it returns as
many as the limit allows (`Select.IsAnswer`).
-/

namespace TrackCriteria

open Calendar (Instant)

namespace Sql

/-! ### Data -/

/-- What a cell of a table holds. There is no null. -/
inductive Datum where
  | number (n : Int)
  | bool (b : Bool)
  | text (s : String)
  | instant (t : Instant)
deriving DecidableEq

/-- The datum that a value of a query denotes. -/
def Value.datum : Value → Datum
  | .bigint n => .number n
  | .ubigint n => .number n
  | .int n => .number n
  | .bool b => .bool b
  | .string s => .text s
  | .instant t => .instant t

/-- The order of two data of the same type. -/
def Datum.lt : Datum → Datum → Bool
  | .number m, .number n => m < n
  | .bool a, .bool b => !a && b
  | .text a, .text b => a < b
  | .instant t, .instant u => t < u
  | _, _ => false

end Sql

/-- Whether a comparison holds between two data. -/
def Comparison.holds (op : Comparison) (a b : Sql.Datum) : Bool :=
  match op with
  | .eq => a = b
  | .lt => a.lt b
  | .le => a.lt b || a = b
  | .gt => b.lt a
  | .ge => b.lt a || a = b

namespace Sql

/-! ### Rows in sight -/

/-- A row of a table: the datum in each of the columns that the table has. -/
abbrev Row := String → Option Datum

/-- The rows of each table. -/
abbrev Tables := String → List Row

/-- The rows in sight, the innermost first, each with the name of its table. -/
abbrev Scope := List (String × Row)

/-- What a column holds in the row in sight of its table. -/
def Scope.read? (scope : Scope) (c : Column) : Option Datum :=
  (scope.find? fun entry => entry.1 = c.table).bind fun entry => entry.2 c.name

/-- What an operand denotes. -/
def Operand.eval? (scope : Scope) : Operand → Option Datum
  | .column c => scope.read? c
  | .value v => some v.datum

/-- Whether a relation holds. -/
def Relation.eval? (scope : Scope) (r : Relation) : Option Bool := do
  let a ← scope.read? r.column
  let b ← r.operand.eval? scope
  return r.op.holds a b

/-- Whether all of some relations hold. -/
def Relation.all? (scope : Scope) : List Relation → Option Bool
  | [] => some true
  | r :: rs => do
    let a ← r.eval? scope
    let b ← all? scope rs
    return a && b

/-! ### Subqueries -/

/-- The items that pass a test, if the test has a meaning for each of them. -/
def keep? {α : Type} (test : α → Option Bool) : List α → Option (List α)
  | [] => some []
  | a :: as => do
    let passed ← test a
    let kept ← keep? test as
    return if passed then a :: kept else kept

/-- The condition that a join puts on a pair of rows. -/
def Join.on (j : Join) : Relation :=
  ⟨j.left, .eq, .column j.right⟩

/-- The rows that a subquery chooses from, each put in sight of its conditions. A join gives all
pairs of a row of the one table and a row of the other. -/
def Subquery.candidates (tables : Tables) (scope : Scope) (q : Subquery) : List Scope :=
  match q.join with
  | none => (tables q.source).map fun row => (q.source, row) :: scope
  | some j =>
    (tables q.source ×ˢ tables j.table).map fun pair =>
      (j.table, pair.2) :: (q.source, pair.1) :: scope

/-- The candidates that satisfy the conditions of a subquery. -/
def Subquery.chosen? (tables : Tables) (scope : Scope) (q : Subquery) : Option (List Scope) :=
  keep? (fun inner => Relation.all? inner ((q.join.map Join.on).toList ++ q.conditions))
    (q.candidates tables scope)

/-- What a subquery returns. -/
def Subquery.results? (tables : Tables) (scope : Scope) (q : Subquery) : Option (List Datum) := do
  (← q.chosen? tables scope).mapM fun inner => q.result.eval? inner

/-! ### Conditions -/

/-- Whether an atom of a condition holds. -/
def Leaf.eval? (tables : Tables) (scope : Scope) : Leaf → Option Bool
  | .relation r => r.eval? scope
  | .inSubquery c q => do
    let datum ← scope.read? c
    let results ← q.results? tables scope
    return results.contains datum
  | .exists q => do
    let chosen ← q.chosen? tables scope
    return !chosen.isEmpty

/-- Whether a condition holds. -/
def Condition.eval? (tables : Tables) (scope : Scope) : Condition → Option Bool
  | .atom leaf => leaf.eval? tables scope
  | .not c => do
    let a ← eval? tables scope c
    return !a
  | .and c d => do
    let a ← eval? tables scope c
    let b ← eval? tables scope d
    return a && b
  | .or c d => do
    let a ← eval? tables scope c
    let b ← eval? tables scope d
    return a || b

/-! ### Selections -/

/-- Whether a selection takes a row, its limit aside. -/
def Select.takes? (tables : Tables) (q : Select) (row : Row) : Option Bool := do
  let scope := [(q.source, row)]
  let owned ← q.owner.eval? scope
  let satisfied ← match q.condition with
    | some c => Condition.eval? tables scope c
    | none => some true
  return owned && satisfied

/-- The rows that a selection takes, its limit aside. -/
def Select.rows? (tables : Tables) (q : Select) : Option (List Row) :=
  keep? (q.takes? tables) (tables q.source)

/-- Whether some rows, in any order, are an answer to a selection: all rows that it takes, or as
many of them as the limit allows. -/
def Select.IsAnswer (tables : Tables) (q : Select) (answer : List Row) : Prop :=
  ∃ rows, q.rows? tables = some rows ∧
    match q.limit with
    | none => answer.Perm rows
    | some n => answer.Subperm rows ∧ answer.length = min n rows.length

theorem Select.isAnswer_iff {tables : Tables} {q : Select} {rows answer : List Row}
    (h : q.rows? tables = some rows) :
    q.IsAnswer tables answer ↔
      match q.limit with
      | none => answer.Perm rows
      | some n => answer.Subperm rows ∧ answer.length = min n rows.length := by
  rw [Select.IsAnswer, h]
  constructor
  · rintro ⟨rows', hrows, hanswer⟩
    obtain rfl := Option.some.inj hrows
    exact hanswer
  · intro hanswer
    exact ⟨rows, rfl, hanswer⟩

/-! ### Evaluating step by step -/

theorem keep?_map {α β : Type} {test : β → Option Bool} {f : α → β} {p : α → Bool} {as : List α}
    (h : ∀ a ∈ as, test (f a) = some (p a)) :
    keep? test (as.map f) = some ((as.filter p).map f) := by
  induction as with
  | nil => rfl
  | cons a as ih =>
    have ha := h a (List.mem_cons_self ..)
    have has := ih fun b hb => h b (List.mem_cons_of_mem _ hb)
    rw [List.map_cons, keep?, ha, has, List.filter_cons]
    cases p a <;> rfl

theorem keep?_eq_some {α : Type} {test : α → Option Bool} {p : α → Bool} {as : List α}
    (h : ∀ a ∈ as, test a = some (p a)) : keep? test as = some (as.filter p) := by
  simpa using keep?_map (f := id) h

theorem mapM_eq_some {α β : Type} {f : α → Option β} {g : α → β} {as : List α}
    (h : ∀ a ∈ as, f a = some (g a)) : as.mapM f = some (as.map g) := by
  induction as with
  | nil => rfl
  | cons a as ih =>
    have ha := h a (List.mem_cons_self ..)
    have has := ih fun b hb => h b (List.mem_cons_of_mem _ hb)
    rw [List.mapM_cons, ha, has]
    rfl

theorem Relation.eval?_eq_some {scope : Scope} {r : Relation} {a b : Datum}
    (ha : scope.read? r.column = some a) (hb : r.operand.eval? scope = some b) :
    r.eval? scope = some (r.op.holds a b) := by
  rw [Relation.eval?, ha, hb]
  rfl

/-- A column is compared with a value by what the row in sight holds in it. -/
theorem Relation.eval?_value {scope : Scope} {c : Column} {a : Datum}
    (h : scope.read? c = some a) (op : Comparison) (v : Value) :
    Relation.eval? scope ⟨c, op, .value v⟩ = some (op.holds a v.datum) :=
  Relation.eval?_eq_some h rfl

/-- Two columns are equal iff the rows in sight hold the same in them. -/
theorem Relation.eval?_columns {scope : Scope} {c d : Column} {a b : Option Datum}
    (ha : ∃ x, a = some x) (hb : ∃ y, b = some y) (hc : scope.read? c = a)
    (hd : scope.read? d = b) :
    Relation.eval? scope ⟨c, .eq, .column d⟩ = some (decide (a = b)) := by
  obtain ⟨x, rfl⟩ := ha
  obtain ⟨y, rfl⟩ := hb
  -- Neither cell is empty, so they are the same iff the data in them are.
  rw [Relation.eval?_eq_some hc (show Operand.eval? scope (.column d) = some y from hd)]
  simp [Comparison.holds]

theorem Relation.all?_nil (scope : Scope) : Relation.all? scope [] = some true := rfl

theorem Relation.all?_cons {scope : Scope} {r : Relation} {rs : List Relation} {a b : Bool}
    (ha : r.eval? scope = some a) (hb : Relation.all? scope rs = some b) :
    Relation.all? scope (r :: rs) = some (a && b) := by
  rw [Relation.all?, ha, hb]
  rfl

@[simp]
theorem Scope.read?_cons_self (scope : Scope) (table name : String) (row : Row) :
    Scope.read? ((table, row) :: scope) ⟨table, name⟩ = row name := by
  simp [Scope.read?]

theorem Scope.read?_cons_of_ne {table other : String} (h : other ≠ table) (scope : Scope)
    (name : String) (row : Row) :
    Scope.read? ((other, row) :: scope) ⟨table, name⟩ = Scope.read? scope ⟨table, name⟩ := by
  simp [Scope.read?, h]

/-- Conditions made from a formula by replacing its atoms hold where the formula is true, if each
replacement holds where its atom is true. -/
theorem Condition.eval?_bind {α : Type} {tables : Tables} {scope : Scope} {f : α → Condition}
    {v : α → Bool} (h : ∀ a, Condition.eval? tables scope (f a) = some (v a)) (p : Formula α) :
    Condition.eval? tables scope (p.bind f) = some (p.eval v) := by
  induction p with
  | atom a => exact h a
  | not p ih =>
    rw [Formula.bind, Condition.eval?, ih]
    rfl
  | and p q ihp ihq =>
    rw [Formula.bind, Condition.eval?, ihp, ihq]
    rfl
  | or p q ihp ihq =>
    rw [Formula.bind, Condition.eval?, ihp, ihq]
    rfl

end Sql

end TrackCriteria
