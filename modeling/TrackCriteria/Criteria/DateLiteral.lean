import TrackCriteria.Criteria.Basic
import TrackCriteria.Text.Decimal

/-!
# Date and duration literals

A literal is an age, `<digits><d|m|y>`, with an amount below 2³²; a year of four digits; or a day
`M-D-YYYY` that exists. The last character decides between an age and the other two.
-/

namespace TrackCriteria

open Text (isAsciiDigit)
open Text.Decimal (value)

namespace DateSpec

/-- Whether the characters are digits only, and as many as asked for. -/
def isDigits (min max : Nat) (cs : List Char) : Bool :=
  min ≤ cs.length && cs.length ≤ max && cs.all isAsciiDigit

/-- The pieces between the hyphens. -/
def splitHyphens : List Char → List (List Char)
  | [] => [[]]
  | c :: cs =>
    if c = '-' then [] :: splitHyphens cs
    else match splitHyphens cs with
      | [] => [[c]]
      | piece :: pieces => (c :: piece) :: pieces

/-- An age of so many units. -/
def ageOfDigits? (unit : AgeUnit) (digits : List Char) : Option DateSpec :=
  if h : value digits < UInt32.size then
    if isDigits 1 digits.length digits then some (.age (.ofNatLT (value digits) h) unit) else none
  else
    none

/-- A calendar day, from a year or from a month, a day and a year. -/
def calendarOfPieces? : List (List Char) → Option DateSpec
  | [year] =>
    if isDigits 4 4 year then
      (Calendar.Date.of? (value year) 1 1).map (.calendar · .year)
    else none
  | [month, day, year] =>
    if isDigits 1 2 month && isDigits 1 2 day && isDigits 4 4 year then
      (Calendar.Date.of? (value year) (value month) (value day)).map (.calendar · .day)
    else none
  | _ => none

/-- What a literal denotes, if it is well formed. -/
def ofLiteral? (literal : List Char) : Option DateSpec :=
  match literal.getLast? with
  | none => none
  | some c =>
    match AgeUnit.ofLetter? c with
    | some unit => ageOfDigits? unit literal.dropLast
    | none => calendarOfPieces? (splitHyphens literal)

end DateSpec

end TrackCriteria
