import TrackCriteria.Criteria.DateLiteral
import TrackCriteria.Criteria.SyntaxError
import TrackCriteria.Token.Scan

/-!
# Parsing criteria

The grammar, from the loosest operator to the tightest; chains are folded to the left:

```text
disjunction := conjunction ("||" conjunction)*
conjunction := operand ("&&" operand)*
operand     := "!" operand | primary
primary     := "(" disjunction ")" | flag | text-field ":" string | date-field comparison value
```

A parser is a value that can be asked for an expression more than once. Every operand that it is
inside of counts as one level of nesting, and at most `maxDepth` levels are allowed. A step that
fails leaves the levels and groups that it was inside of on the books, so a parser that has failed
has less room for nesting afterwards. The levels that are left bound the recursion.
-/

namespace TrackCriteria

/-! ### Tokens of the language -/

/-- The error that a token is if it is no part of the language. -/
def Token.check (t : Token) : Except SyntaxError Token :=
  match t.kind with
  | .unterminatedString => .error (.unterminatedString t.span)
  | .illegal c => .error (.illegalCharacter c t.span)
  | _ => .ok t

/-- The tokens of a source, or the first of them that is no part of the language. -/
def tokenize (source : String) : Except SyntaxError (List Token) :=
  (Token.scan source).mapM Token.check

/-! ### The parser and its elementary steps -/

/-- A parser of a list of tokens. -/
structure Parser where
  /-- All tokens. -/
  tokens : List Token
  /-- The tokens that have not been passed. -/
  rest : List Token
  /-- The operands that were entered and not left. -/
  depth : Nat
  /-- The parentheses that were opened and not closed. -/
  groups : Nat
deriving DecidableEq

namespace Parser

/-- The parser at the front of its tokens. -/
def ofTokens (tokens : List Token) : Parser :=
  ⟨tokens, tokens, 0, 0⟩

/-- A step of a parser. It changes the parser also where it fails. -/
abbrev Step := EStateM SyntaxError Parser

/-- The next token. -/
def peek : Step (Option Token) := do
  return (← get).rest.head?

/-- Passes the next token and returns it. -/
def advance : Step (Option Token) := do
  let p ← get
  set { p with rest := p.rest.tail }
  return p.rest.head?

/-- Passes the next token if it is of the given kind, and says whether it did. -/
def accept (kind : Token.Kind) : Step Bool := do
  match ← peek with
  | some t => if t.kind = kind then do let _ ← advance; return true else return false
  | none => return false

/-- Fails at a token that should be another one. -/
def unexpected {α : Type} (expected : Expectation) (t : Token) : Step α :=
  throw (.unexpectedToken expected t.kind t.span)

/-- Passes the next token if `select` takes it, and fails otherwise without passing it. -/
def expect {α : Type} (expected : Expectation) (select : Token → Option α) : Step α := do
  match ← peek with
  | none => throw (.unexpectedEnd expected)
  | some t =>
    match select t with
    | some a => do let _ ← advance; return a
    | none => unexpected expected t

/-! ### Atoms -/

/-- The colon and the quoted text after the word for a text field. -/
def fieldText : Step String := do
  expect .colon fun t => if t.kind = .colon then some () else none
  expect .quotedString fun t => match t.kind with | .string text => some text | _ => none

/-- The comparison operator after the word for a date field. It passes whatever stands there. -/
def comparison : Step Comparison := do
  match ← advance with
  | none => throw (.unexpectedEnd .comparison)
  | some t =>
    match t.kind with
    | .comparison op => return op
    | _ => unexpected .comparison t

/-- The date or duration after a comparison operator. -/
def dateSpec : Step DateSpec := do
  let (literal, span) ← expect .dateOrDuration fun t =>
    match t.kind with | .value literal => some (literal, t.span) | _ => none
  match DateSpec.ofLiteral? literal.toList with
  | some spec => return spec
  | none => throw (.invalidDate literal span)

/-- The test that a keyword starts. -/
def test : Keyword → Step Atom
  | .clean => return .clean
  | .explicit => return .explicit
  | .unlabeled => return .unlabeled
  | .text field => return .text field (← fieldText)
  | .date field => do
    let op ← comparison
    return .date field op (← dateSpec)

/-! ### Chains of operators -/

/-- The links of a chain after its first item: as long as the operator follows, another item.
At most `bound` links are read. -/
def links (op : Token.Kind) (join : Criteria → Criteria → Criteria) (item : Step Criteria) :
    Nat → Criteria → Step Criteria
  | 0, left => return left
  | bound + 1, left => do
    if ← accept op then
      let right ← item
      links op join item bound (join left right)
    else
      return left

/-- Items with an operator between each two, folded to the left. Every link passes a token, so there
are no more links than tokens. -/
def chain (op : Token.Kind) (join : Criteria → Criteria → Criteria) (item : Step Criteria) :
    Step Criteria := do
  let left ← item
  links op join item (← get).rest.length left

/-- A disjunction of conjunctions of operands. -/
def disjunction (operand : Step Criteria) : Step Criteria :=
  chain .or .or (chain .and .and operand)

/-! ### Groups and operands -/

/-- The expression in parentheses after the opening one. -/
def group (opening : Span) (inner : Step Criteria) : Step Criteria := do
  modify fun p => { p with groups := p.groups + 1 }
  let e ← inner
  match ← peek with
  | none => throw (.unclosedParen opening)
  | some t =>
    if t.kind = .rightParen then do
      let _ ← advance
      modify fun p => { p with groups := p.groups - 1 }
      return e
    else
      unexpected .closingParen t

/-- An expression in parentheses or a single test. -/
def primary (inner : Step Criteria) : Step Criteria := do
  match ← advance with
  | none => throw (.unexpectedEnd .expression)
  | some t =>
    match t.kind with
    | .leftParen => group t.span inner
    | .keyword k => return .atom (← test k)
    | .identifier word => throw (.unknownKeyword word t.span)
    | .rightParen =>
      if (← get).groups = 0 then throw (.unmatchedParen t.span) else unexpected .expression t
    | _ => unexpected .expression t

/-- Enters an operand. -/
def enter : Step Unit :=
  modify fun p => { p with depth := p.depth + 1 }

/-- Leaves an operand. -/
def leave : Step Unit :=
  modify fun p => { p with depth := p.depth - 1 }

/-- Fails at the next token because no level of nesting is left. At the end of the tokens there is
no place to point at but the start. -/
def tooDeep : Step Criteria := do
  match ← peek with
  | some t => throw (.nestingTooDeep t.span)
  | none => throw (.nestingTooDeep ⟨0, 0⟩)

/-- An operand with so many levels of nesting left. -/
def operand : Nat → Step Criteria
  | 0 => do
    enter
    tooDeep
  | levels + 1 => do
    enter
    let e ←
      if ← accept .not then do
        let e ← operand levels
        pure (Formula.not e)
      else
        primary (disjunction (operand levels))
    leave
    return e

/-! ### Whole expressions -/

/-- An expression that takes up all tokens that are left. -/
def expression : Step Criteria := do
  let p ← get
  if p.tokens.isEmpty then throw .empty
  let e ← disjunction (operand (maxDepth - p.depth))
  match ← peek with
  | none => return e
  | some t =>
    if t.kind = .rightParen then throw (.unmatchedParen t.span)
    else throw (.trailingInput t.kind t.span)

/-- Asks the parser for an expression: the answer, and the parser as it is left. -/
def parse (p : Parser) : Except SyntaxError Criteria × Parser :=
  match expression p with
  | .ok e p => (.ok e, p)
  | .error err p => (.error err, p)

end Parser

/-- The criteria that a source spells. -/
def Criteria.parse (source : String) : Except SyntaxError Criteria := do
  let tokens ← tokenize source
  (Parser.ofTokens tokens).parse.1

end TrackCriteria
