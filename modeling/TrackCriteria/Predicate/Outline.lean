import TrackCriteria.Calendar.Timestamp
import TrackCriteria.Predicate
import TrackCriteria.Text.Quoted

/-!
# Predicates as an outline

The outline of a predicate shows its structure line by line: each operand stands on a line of its
own, four blanks deeper than its connective, and ends in a comma.
-/

namespace TrackCriteria

namespace Outline

/-- The blanks at the start of a line at a depth of nesting. -/
def margin (depth : Nat) : String :=
  String.ofList (List.replicate (4 * depth) ' ')

/-- Parts between an opening and a closing mark, each on a line of its own one level deeper. -/
def block (depth : Nat) (opening closing : String) (parts : List String) : String :=
  opening ++ "\n" ++ String.join (parts.map fun part => margin (depth + 1) ++ part ++ ",\n") ++
    margin depth ++ closing

/-- A constructor with its arguments. -/
def call (depth : Nat) (name : String) (arguments : List String) : String :=
  block depth (name ++ "(") ")" arguments

/-- A constructor with named fields. -/
def record (depth : Nat) (name : String) (fields : List (String × String)) : String :=
  block depth (name ++ " \x7b") "\x7d" (fields.map fun (field, value) => field ++ ": " ++ value)

end Outline

/-- The constructor of a text field. -/
def TextField.title : TextField → String
  | .name => "Name"
  | .label => "Label"
  | .album => "Album"
  | .artist => "Artist"

/-- The constructor of a date field. -/
def DateField.title : DateField → String
  | .added => "Added"
  | .released => "Released"

/-- The constructor of a kind of bound. -/
def Bound.Kind.title : Bound.Kind → String
  | .greaterThan => "GreaterThan"
  | .greaterOrEqual => "GreaterOrEqual"
  | .lessThan => "LessThan"
  | .lessOrEqual => "LessOrEqual"

/-- The outline of a test that stands at a depth of nesting. -/
def Test.outline (depth : Nat) : Test → String
  | .clean => "Clean"
  | .explicit => "Explicit"
  | .unlabeled => "Unlabeled"
  | .text field value => Outline.call depth field.title [Text.quoted value]
  | .date field bound =>
    Outline.record depth "Date"
      [("field", field.title),
       ("bound", Outline.call (depth + 1) bound.kind.title [bound.instant.text])]

/-- The outline of a predicate that stands at a depth of nesting. -/
def Predicate.outline (depth : Nat) : Predicate → String
  | .atom t => t.outline depth
  | .not p => Outline.call depth "Not" [outline (depth + 1) p]
  | .and p q => Outline.call depth "And" [outline (depth + 1) p, outline (depth + 1) q]
  | .or p q => Outline.call depth "Or" [outline (depth + 1) p, outline (depth + 1) q]

end TrackCriteria
