import TrackCriteria.Proofs.Sql.Lexeme

/-!
# Reading a statement back

A reader of the statements that tracks are selected with, after the grammar of PostgreSQL.
Comparisons and `IN` bind tighter than `NOT`, `NOT` tighter than `AND`, and `AND` tighter than `OR`;
chains of `AND` and of `OR` associate to the left; parentheses override all this and leave no trace
in the tree. Comparisons do not associate.

A tree has places where the statement has values. Given the values, a tree that has the form of a
condition is read as one (`Term.condition?`).
-/

namespace TrackCriteria.Sql

/-! ### Trees -/

/-- A part of a statement. -/
inductive Term where
  | column (c : Column)
  /-- All columns of a table. -/
  | star (table : String)
  | place (n : Nat)
  | comparison (op : Comparison) (left right : Term)
  /-- Membership in the results of a selection. -/
  | member (element selection : Term)
  /-- Existence of results of a selection. -/
  | exists (selection : Term)
  | not (operand : Term)
  | and (left right : Term)
  | or (left right : Term)
  | table (name : String)
  | joined (source : Term) (table : String) (condition : Term)
  | select (result source condition : Term)
deriving DecidableEq

/-- A whole statement. -/
structure Statement where
  selection : Term
  limit : Option Term
deriving DecidableEq

/-! ### Reading trees -/

/-- A reader takes a term from the front of some lexemes and leaves the others. -/
abbrev Reader := List Lexeme → Option (Term × List Lexeme)

namespace Reader

/-- What stands in parentheses. -/
def inParens (inner : Reader) : Reader
  | .leftParen :: ls =>
    match inner ls with
    | some (t, .rightParen :: rest) => some (t, rest)
    | _ => none
  | _ => none

/-- What is selected from: a table, or two that are joined. -/
def source (expression : Reader) : Reader
  | .name first :: .word .inner :: .word .join :: .name second :: .word .on :: ls => do
    let (condition, rest) ← expression ls
    return (.joined (.table first) second condition, rest)
  | .name name :: ls => some (.table name, ls)
  | _ => none

/-- A column or a place. -/
def reference : Reader
  | .name table :: .dot :: .name name :: ls => some (.column ⟨table, name⟩, ls)
  | .place n :: ls => some (.place n, ls)
  | _ => none

/-- What is selected: all columns of a table, a column or a place. -/
def result : Reader
  | .name table :: .dot :: .star :: ls => some (.star table, ls)
  | ls => reference ls

/-- A selection with a condition. -/
def selection (expression : Reader) : Reader
  | .word .select :: ls => do
    let (result, .word .from :: ls) ← result ls | none
    let (source, .word .where :: ls) ← source expression ls | none
    let (condition, rest) ← expression ls
    return (.select result source condition, rest)
  | _ => none

/-- A column, a place, `EXISTS` with a selection, or an expression in parentheses. -/
def primary (expression : Reader) : Reader
  | .word .exists :: ls => do
    let (q, rest) ← inParens (selection expression) ls
    return (.exists q, rest)
  | .leftParen :: ls => inParens expression (.leftParen :: ls)
  | ls => reference ls

/-- A primary expression, a comparison of two, or membership of one. -/
def test (expression : Reader) : Reader := fun ls => do
  let (left, rest) ← primary expression ls
  match rest with
  | .comparison op :: rest => do
    let (right, rest) ← primary expression rest
    return (.comparison op left right, rest)
  | .word .in :: rest => do
    let (q, rest) ← inParens (selection expression) rest
    return (.member left q, rest)
  | rest => return (left, rest)

/-- An operand: `NOT` and an operand, or a test. -/
def operand (expression : Reader) : Reader
  | .word .not :: ls => do
    let (t, rest) ← operand expression ls
    return (.not t, rest)
  | ls => test expression ls

/-- The links of a chain: as long as the word comes next, what has been read is joined with what is
read after it. There are no more links than the bound says. -/
def links (w : Word) (join : Term → Term → Term) (item : Reader) : Nat → Term → Reader
  | bound + 1, left, .word w' :: ls =>
    if w' = w then do
      let (right, rest) ← item ls
      links w join item bound (join left right) rest
    else
      some (left, .word w' :: ls)
  | _, left, ls => some (left, ls)

/-- A chain of items with the word between each two, joined to the left. -/
def chain (w : Word) (join : Term → Term → Term) (item : Reader) : Reader := fun ls => do
  let (left, rest) ← item ls
  links w join item rest.length left rest

/-- A chain of operands with `AND`. -/
def conjunction (expression : Reader) : Reader :=
  chain .and .and (operand expression)

/-- A chain of conjunctions with `OR`. -/
def disjunction (expression : Reader) : Reader :=
  chain .or .or (conjunction expression)

/-- An expression with so many levels of parentheses at most. -/
def expression : Nat → Reader
  | 0 => fun _ => none
  | levels + 1 => disjunction (expression levels)

end Reader

/-- The statement that some lexemes spell. No more parentheses can be nested than there are
lexemes. -/
def Statement.ofLexemes? (ls : List Lexeme) : Option Statement :=
  match Reader.selection (Reader.expression ls.length) ls with
  | some (q, []) => some ⟨q, none⟩
  | some (q, [.word .limit, .place n]) => some ⟨q, some (.place n)⟩
  | _ => none

/-- The statement that a text spells. -/
def Statement.read? (text : String) : Option Statement :=
  (lexemes? text).bind Statement.ofLexemes?

/-! ### Terms as conditions -/

namespace Term

variable (values : List Value)

/-- The operand that a term stands for: a column, or the value of a place. -/
def operand? : Term → Option Operand
  | .column c => some (.column c)
  | .place (n + 1) => values[n]?.map .value
  | _ => none

/-- The relation that a term stands for. -/
def relation? : Term → Option Relation
  | .comparison op (.column c) right => (right.operand? values).map (⟨c, op, ·⟩)
  | _ => none

/-- The relations that a term stands for if all of them have to hold. -/
def relations? : Term → Option (List Relation)
  | .and left right => do
    let rs ← left.relations?
    let r ← right.relation? values
    return rs ++ [r]
  | t => (t.relation? values).map ([·])

/-- The table that is selected from, and the one that is joined to it. -/
def tables? : Term → Option (String × Option Join)
  | .table name => some (name, none)
  | .joined (.table first) second (.comparison .eq (.column left) (.column right)) =>
    some (first, some ⟨second, left, right⟩)
  | _ => none

/-- The subquery that a term stands for. -/
def subquery? : Term → Option Subquery
  | .select result source condition => do
    let result ← result.operand? values
    let tables ← source.tables?
    let relations ← condition.relations? values
    return ⟨result, tables.1, tables.2, relations⟩
  | _ => none

/-- The condition that a term stands for. -/
def condition? : Term → Option Condition
  | .not t => t.condition?.map .not
  | .and left right => do
    let c ← left.condition?
    let d ← right.condition?
    return .and c d
  | .or left right => do
    let c ← left.condition?
    let d ← right.condition?
    return .or c d
  | .member (.column c) q => (q.subquery? values).map fun q => .atom (.inSubquery c q)
  | .exists q => (q.subquery? values).map fun q => .atom (.exists q)
  | t => (t.relation? values).map fun r => .atom (.relation r)

end Term

end TrackCriteria.Sql
