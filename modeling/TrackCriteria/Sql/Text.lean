import TrackCriteria.Calendar.Timestamp
import TrackCriteria.Sql.Query

/-!
# The text of a query

A query is written as a list of fragments, each a piece of text or a value. From the fragments come
both forms of the query: the prepared one, in which values are numbered places and stand apart, and
the inlined one, in which values are literals. The text between the values is the same in both.

Operands of `AND` and `OR` are in parentheses if they are negations or compound, except for a left
operand of the same connective; the operand of `NOT` is if it is a negation or compound.
-/

namespace TrackCriteria.Sql

/-! ### Fragments -/

/-- A piece of a query. -/
inductive Fragment where
  | text (s : String)
  | value (v : Value)
deriving DecidableEq

/-- Fragments in parentheses, if asked for. -/
def parenthesized (needed : Bool) (fragments : List Fragment) : List Fragment :=
  if needed then .text "(" :: fragments ++ [.text ")"] else fragments

/-! ### Names -/

/-- A name in double quotes; a quote in it is written twice. -/
def nameText (name : String) : String :=
  String.ofList ('"' :: name.toList.flatMap (fun c => if c = '"' then ['"', '"'] else [c]) ++ ['"'])

/-- A column with its table. -/
def Column.text (c : Column) : String :=
  nameText c.table ++ "." ++ nameText c.name

/-! ### Atoms -/

/-- An operand of a comparison. -/
def Operand.fragments : Operand → List Fragment
  | .column c => [.text c.text]
  | .value v => [.value v]

/-- A comparison. -/
def Relation.fragments (r : Relation) : List Fragment :=
  .text (r.column.text ++ " " ++ r.op.symbol ++ " ") :: r.operand.fragments

/-- A joined table with its condition. -/
def Join.text (j : Join) : String :=
  " INNER JOIN " ++ nameText j.table ++ " ON " ++ j.left.text ++ " = " ++ j.right.text

/-- Conditions that all have to hold. -/
def conjunction : List (List Fragment) → List Fragment
  | [] => []
  | [condition] => condition
  | condition :: conditions => condition ++ .text " AND " :: conjunction conditions

/-- A subquery. -/
def Subquery.fragments (q : Subquery) : List Fragment :=
  .text "SELECT " :: q.result.fragments ++
    .text (" FROM " ++ nameText q.source ++ (q.join.map Join.text).getD "") ::
    .text " WHERE " :: conjunction (q.conditions.map Relation.fragments)

/-- An atom of a condition. -/
def Leaf.fragments : Leaf → List Fragment
  | .relation r => r.fragments
  | .inSubquery c q => .text (c.text ++ " IN (") :: q.fragments ++ [.text ")"]
  | .exists q => .text "EXISTS(" :: q.fragments ++ [.text ")"]

/-! ### Conditions -/

/-- Whether a condition needs parentheses as an operand. -/
def needsParens : Condition → Bool
  | .atom _ => false
  | .not _ => true
  | .and _ _ => true
  | .or _ _ => true

/-- Whether a condition needs parentheses as the left operand of `AND`. -/
def needsParensLeftOfAnd : Condition → Bool
  | .and _ _ => false
  | c => needsParens c

/-- Whether a condition needs parentheses as the left operand of `OR`. -/
def needsParensLeftOfOr : Condition → Bool
  | .or _ _ => false
  | c => needsParens c

/-- A condition. -/
def Condition.fragments : Condition → List Fragment
  | .atom leaf => leaf.fragments
  | .not c => .text "NOT " :: parenthesized (needsParens c) (fragments c)
  | .and c d =>
    parenthesized (needsParensLeftOfAnd c) (fragments c) ++ .text " AND " ::
      parenthesized (needsParens d) (fragments d)
  | .or c d =>
    parenthesized (needsParensLeftOfOr c) (fragments c) ++ .text " OR " ::
      parenthesized (needsParens d) (fragments d)

/-! ### Selections -/

/-- The condition of a selection: the owner's rows, and those that satisfy the condition. -/
def Select.whereFragments (q : Select) : List Fragment :=
  conjunction (q.owner.fragments ::
    (q.condition.map fun c => parenthesized (needsParens c) (Condition.fragments c)).toList)

/-- A selection. -/
def Select.fragments (q : Select) : List Fragment :=
  .text ("SELECT " ++ nameText q.source ++ ".* FROM " ++ nameText q.source) ::
    .text " WHERE " :: q.whereFragments ++
    match q.limit with
    | some n => [.text " LIMIT ", .value (.ubigint n)]
    | none => []

/-! ### The prepared form -/

/-- Fragments with numbered places for values, counted from `next`. -/
def preparedFrom (next : Nat) : List Fragment → String
  | [] => ""
  | .text s :: fragments => s ++ preparedFrom next fragments
  | .value _ :: fragments => "$" ++ next.repr ++ preparedFrom (next + 1) fragments

/-- The query with the places `$1`, `$2` and so on for its values. -/
def Select.prepared (q : Select) : String :=
  preparedFrom 1 q.fragments

/-- The values in the order of their places. -/
def Select.values (q : Select) : List Value :=
  q.fragments.filterMap fun
    | .text _ => none
    | .value v => some v

/-! ### The inlined form -/

/-- A character inside a string literal. -/
def escapeChar (c : Char) : List Char :=
  if c = '\\' then ['\\', '\\']
  else if c = '"' then ['\\', '"']
  else if c = '\'' then ['\\', '\'']
  else if c = '\x00' then ['\\', '0']
  else if c = '\x08' then ['\\', 'b']
  else if c = '\t' then ['\\', 't']
  else if c = '\x1a' then ['\\', 'z']
  else if c = '\n' then ['\\', 'n']
  else if c = '\r' then ['\\', 'r']
  else [c]

/-- A string literal, marked with `E` if it has escapes. -/
def stringLiteral (s : String) : List Char :=
  let body := s.toList.flatMap escapeChar
  let literal := '\'' :: body ++ ['\'']
  if body.contains '\\' then 'E' :: literal else literal

/-- A value as a literal. -/
def Value.literal : Value → String
  | .bigint n => toString n
  | .ubigint n => toString n
  | .int n => toString n
  | .bool b => if b then "TRUE" else "FALSE"
  | .string s => String.ofList (stringLiteral s)
  | .instant t => "'" ++ t.queryText ++ "'"

/-- The query with literals for its values. -/
def Select.inlined (q : Select) : String :=
  String.join (q.fragments.map fun
    | .text s => s
    | .value v => v.literal)

end TrackCriteria.Sql
