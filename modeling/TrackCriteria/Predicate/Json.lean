import TrackCriteria.Calendar.Timestamp.Reader
import TrackCriteria.Json.Reader
import TrackCriteria.Json.Writer
import TrackCriteria.Predicate

/-!
# Predicates as JSON

A flag is its name; every other test and connective is an object whose only member is its name with
its content: a text, the field and the bound of a date, the operand of a negation, the array of the
two operands of a conjunction or disjunction. Instants are in the interchange form.
-/

namespace TrackCriteria

open Calendar (Instant)

/-! ### Names -/

/-- The name of a kind of bound. -/
def Bound.Kind.key : Bound.Kind → String
  | .greaterThan => "greater_than"
  | .greaterOrEqual => "greater_or_equal"
  | .lessThan => "less_than"
  | .lessOrEqual => "less_or_equal"

/-- The kinds of bounds by name. -/
def Bound.Kind.named : List (String × Bound.Kind) :=
  [.greaterThan, .greaterOrEqual, .lessThan, .lessOrEqual].map fun k => (k.key, k)

/-- The date fields by name. -/
def DateField.named : List (String × DateField) :=
  [.added, .released].map fun f => (f.keyword, f)

/-! ### Writing -/

/-- A bound as JSON. -/
def Bound.toJson (b : Bound) : Json :=
  .object [(b.kind.key, .string b.instant.text)]

/-- A test as JSON. -/
def Test.toJson : Test → Json
  | .clean => .string "clean"
  | .explicit => .string "explicit"
  | .unlabeled => .string "unlabeled"
  | .text field value => .object [(field.keyword, .string value)]
  | .date field bound =>
    .object [("date", .object [("field", .string field.keyword), ("bound", bound.toJson)])]

/-- A predicate as JSON. -/
def Predicate.toJson : Predicate → Json
  | .atom t => t.toJson
  | .not p => .object [("not", toJson p)]
  | .and p q => .object [("and", .array [toJson p, toJson q])]
  | .or p q => .object [("or", .array [toJson p, toJson q])]

/-! ### Reading -/

open Json (Reader)
open Json.Reader (malformed token choice record RecordField)

/-- The instant of a string. -/
def Calendar.Instant.reader : Reader Instant := do
  match Instant.ofText? (← Json.Reader.string) with
  | some t => return t
  | none => malformed

/-- A bound in an object that may be nested so many levels deep. -/
def Bound.reader (levels : Nat) : Reader Bound :=
  choice Bound.Kind.named (fun _ => none)
    (if levels = 0 then none else some fun kind => return ⟨kind, ← Instant.reader⟩)

/-- The parts of a test of a date that have been read. -/
structure DateTestParts where
  field : Option DateField
  bound : Option Bound

/-- The fields of a test of a date. -/
def DateTestParts.fields : List (RecordField DateTestParts) :=
  [⟨"field", true, (·.field.isSome), fun levels s => do
      return { s with field := some (← Json.Reader.name DateField.named levels) }⟩,
   ⟨"bound", true, (·.bound.isSome), fun levels s => do
      return { s with bound := some (← Bound.reader levels) }⟩]

/-- The content of a test of a date. -/
def Test.dateReader (levels : Nat) : Reader Test := do
  match ← record DateTestParts.fields levels ⟨none, none⟩ with
  | ⟨some field, some bound⟩ => return .date field bound
  | _ => malformed

/-- The alternatives of a predicate. -/
inductive Predicate.Variant where
  | clean
  | explicit
  | unlabeled
  | text (field : TextField)
  | date
  | not
  | and
  | or

/-- The alternatives of a predicate by name. -/
def Predicate.Variant.named : List (String × Variant) :=
  [("clean", .clean), ("explicit", .explicit), ("unlabeled", .unlabeled),
   ("name", .text .name), ("label", .text .label), ("album", .text .album),
   ("artist", .text .artist), ("date", .date), ("not", .not), ("and", .and), ("or", .or)]

/-- The predicate of an alternative without content. -/
def Predicate.Variant.alone? : Variant → Option Predicate
  | .clean => some (.atom .clean)
  | .explicit => some (.atom .explicit)
  | .unlabeled => some (.atom .unlabeled)
  | _ => none

/-- An array of two values. -/
def Json.Reader.pair {α : Type} (item : Reader α) : Reader (α × α) := do
  token .leftBracket
  let a ← item
  token .comma
  let b ← item
  token .rightBracket
  return (a, b)

/-- A predicate that may be nested so many levels deep. -/
def Predicate.reader : (levels : Nat) → Reader Predicate
  | 0 => choice Variant.named Variant.alone? none
  | levels + 1 => choice Variant.named Variant.alone? <| some fun
    | .clean => do token .null; return .atom .clean
    | .explicit => do token .null; return .atom .explicit
    | .unlabeled => do token .null; return .atom .unlabeled
    | .text field => return .atom (.text field (← Json.Reader.string))
    | .date => return .atom (← Test.dateReader levels)
    | .not => return .not (← Predicate.reader levels)
    | .and =>
      match levels with
      | 0 => malformed
      | levels + 1 => return (fun (p, q) => .and p q) (← Json.Reader.pair (Predicate.reader levels))
    | .or =>
      match levels with
      | 0 => malformed
      | levels + 1 => return (fun (p, q) => .or p q) (← Json.Reader.pair (Predicate.reader levels))

/-- The predicate of a JSON text. -/
def Predicate.ofJson (text : String) : Except Json.Fault Predicate :=
  Json.read Predicate.reader text

end TrackCriteria
