import TrackCriteria.Calendar.Instant
import TrackCriteria.Criteria.Basic

/-!
# Queries

The queries that tracks are selected with, as data: a selection of whole rows of one table, and
conditions that are formulas over comparisons of a column, membership of a column in a subquery, and
existence of rows of a subquery. Values stand in them as values, never as text.
-/

namespace TrackCriteria.Sql

/-- A column with the table that it belongs to. -/
structure Column where
  table : String
  name : String
deriving DecidableEq

/-- A value of one of the types that a query can hold. -/
inductive Value where
  /-- A signed number of 64 bits. -/
  | bigint (n : Int)
  /-- An unsigned number of 64 bits. -/
  | ubigint (n : Nat)
  | int (n : Int)
  | bool (b : Bool)
  | string (s : String)
  | instant (t : Calendar.Instant)
deriving DecidableEq

/-- What a column is compared with, or what a subquery selects. -/
inductive Operand where
  | column (c : Column)
  | value (v : Value)
deriving DecidableEq

/-- A comparison of a column. -/
structure Relation where
  column : Column
  op : Comparison
  operand : Operand
deriving DecidableEq

/-- A table that is joined to the one that a subquery selects from, where two columns are equal. -/
structure Join where
  table : String
  left : Column
  right : Column
deriving DecidableEq

/-- A selection inside a condition. All its conditions have to hold. -/
structure Subquery where
  result : Operand
  source : String
  join : Option Join
  conditions : List Relation
deriving DecidableEq

/-- An atom of a condition. -/
inductive Leaf where
  | relation (r : Relation)
  | inSubquery (c : Column) (q : Subquery)
  | exists (q : Subquery)
deriving DecidableEq

/-- A condition on a row. -/
abbrev Condition := Formula Leaf

/-- A selection of whole rows: those of an owner that satisfy a condition, if there is one, and at
most so many of them, if there is a limit. -/
structure Select where
  source : String
  owner : Relation
  condition : Option Condition
  limit : Option Nat
deriving DecidableEq

end TrackCriteria.Sql
