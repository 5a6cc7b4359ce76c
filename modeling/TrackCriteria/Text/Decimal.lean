import TrackCriteria.Text.CharClass

/-!
# Decimal numbers

Numbers are written with the digits `0` to `9`, padded with zeros at the front where a width is
asked for, and read back from a run of such digits. Reading the digits of a number gives the
number (`value_toDigits`).
-/

namespace TrackCriteria.Text.Decimal

/-- The digits of a number, with zeros at the front up to a width. -/
def paddedDigits (width n : Nat) : List Char :=
  let digits := Nat.toDigits 10 n
  List.replicate (width - digits.length) '0' ++ digits

/-- The text of a number, with zeros at the front up to a width. -/
def padded (width n : Nat) : String :=
  String.ofList (paddedDigits width n)

/-- The text of an integer, where a minus sign counts towards the width. -/
def paddedInt (width : Nat) (n : Int) : String :=
  if n < 0 then "-" ++ padded (width - 1) n.natAbs else padded width n.natAbs

/-- The number that a run of digits denotes. -/
def value (digits : List Char) : Nat :=
  Nat.ofDigitChars 10 digits 0

theorem value_toDigits (n : Nat) : value (Nat.toDigits 10 n) = n :=
  Nat.ofDigitChars_toDigits (by decide) (by decide)

/-- The digits at the front of a text, at most `max` of them, and the rest; nothing if there are
fewer than `min`. -/
def takeDigits (min max : Nat) (cs : List Char) : Option (List Char × List Char) :=
  let digits := (cs.takeWhile isAsciiDigit).take max
  if digits.length < min then none else some (digits, cs.drop digits.length)

/-- An integer as a whole text: digits after an optional sign. -/
def readInt? (cs : List Char) : Option Int :=
  let number (digits : List Char) : Option Nat :=
    if digits ≠ [] ∧ digits.all isAsciiDigit then some (value digits) else none
  match cs with
  | '-' :: digits => (number digits).map fun n => -(n : Int)
  | '+' :: digits => (number digits).map Int.ofNat
  | digits => (number digits).map Int.ofNat

end TrackCriteria.Text.Decimal
