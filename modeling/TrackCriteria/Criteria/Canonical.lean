import TrackCriteria.Criteria.Basic
import TrackCriteria.Text.Decimal

/-!
# The canonical text of criteria

Criteria are written with one blank on each side of `&&` and `||` and none elsewhere. An operand
that is itself a conjunction or a disjunction is in parentheses, so the text shows the tree and
nothing depends on the precedence of the operators.
-/

namespace TrackCriteria

open Text.Decimal (padded paddedInt)

/-- An age as digits and the letter of its unit; a bare year with at least four characters; a day as
month, day and year. -/
def DateSpec.canonical : DateSpec → String
  | .age amount unit => padded 1 amount.toNat ++ String.singleton unit.letter
  | .calendar date .year => paddedInt 4 date.year
  | .calendar date .day =>
    padded 1 date.month ++ "-" ++ padded 1 date.day ++ "-" ++ paddedInt 4 date.year

/-- A text between double quotes, just as it is. -/
def quoteText (value : String) : String :=
  "\"" ++ value ++ "\""

/-- The text of a test. -/
def Atom.canonical : Atom → String
  | .clean => "clean"
  | .explicit => "explicit"
  | .unlabeled => "unlabeled"
  | .text field value => field.keyword ++ ":" ++ quoteText value
  | .date field op value => field.keyword ++ op.symbol ++ value.canonical

/-- Puts the text of a compound formula in parentheses. -/
def parenthesize {α : Type} (p : Formula α) (text : String) : String :=
  if p.isCompound then "(" ++ text ++ ")" else text

/-- The canonical text of criteria. -/
def Criteria.canonical : Criteria → String
  | .atom a => a.canonical
  | .not p => "!" ++ parenthesize p (canonical p)
  | .and p q => parenthesize p (canonical p) ++ " && " ++ parenthesize q (canonical q)
  | .or p q => parenthesize p (canonical p) ++ " || " ++ parenthesize q (canonical q)

end TrackCriteria
