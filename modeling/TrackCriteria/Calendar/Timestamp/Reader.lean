import TrackCriteria.Calendar.Timestamp

/-!
# Reading timestamps

A timestamp is read field by field from the front of a text. The date and the time are joined by
`T`, `t` or a space. There are two grammars.

* The strict one, for the evaluation time, is RFC 3339, in which every field has its full width.
* The relaxed one, for the dates of tracks and predicates, also takes fields with fewer digits,
  years with a sign and any number of digits, white space before fields and separators and at the
  ends, offsets without a colon, and `UTC` for `Z`.

Either way the fields have to make up a time that exists, and second 60 is a leap second.
-/

namespace TrackCriteria.Calendar.Timestamp

open Text (isWhiteSpace isAsciiDigit skipWhiteSpace)
open Text.Decimal (takeDigits value)

/-- A reader of a value from the front of a text. -/
abbrev Reader := StateT (List Char) Option

/-! ### Pieces of the text -/

/-- A number of at least `min` and at most `max` digits. -/
def number (min max : Nat) : Reader Nat := fun cs => do
  let (digits, rest) ← takeDigits min max cs
  return (value digits, rest)

/-- A given character. -/
def literal (c : Char) : Reader Unit := fun
  | d :: rest => if d = c then some ((), rest) else none
  | [] => none

/-- Any amount of white space. -/
def blanks : Reader Unit := fun cs =>
  some ((), skipWhiteSpace cs)

/-- The nanoseconds of an optional fraction: a point and at least one digit. Digits after the ninth
count for nothing. -/
def fraction : Reader Nat := fun
  | '.' :: cs => do
    let (digits, rest) ← takeDigits 1 9 cs
    let nanos := value (digits ++ List.replicate (9 - digits.length) '0')
    return (nanos, rest.dropWhile isAsciiDigit)
  | cs => some (0, cs)

/-- The end of the text. -/
def atEnd : Reader Unit := fun cs =>
  if cs.isEmpty then some ((), []) else none

/-- The sign of an offset, as a factor. The minus sign may be the typographic one. -/
def offsetSign : Reader Int := fun
  | '+' :: rest => some (1, rest)
  | '-' :: rest => some (-1, rest)
  | '\u2212' :: rest => some (-1, rest)
  | _ => none

/-- An offset in seconds: `Z`, or a sign with two digits of hours and two of minutes, where
`separator` reads what stands between them. -/
def offset (separator : Reader Unit) : Reader Int := fun
  | 'Z' :: rest => some (0, rest)
  | 'z' :: rest => some (0, rest)
  | cs => (do
    let sign ← offsetSign
    let hours ← number 2 2
    separator
    let minutes ← number 2 2
    guard (minutes < 60)
    return sign * (hours * 3600 + minutes * 60)) cs

/-- What joins the date and the time: `T` in either case, or a space. -/
def joint : Reader Unit := fun
  | 'T' :: rest => some ((), rest)
  | 't' :: rest => some ((), rest)
  | ' ' :: rest => some ((), rest)
  | _ => none

/-! ### Fields -/

/-- The fields of a timestamp as they were read. -/
structure Fields where
  year : Int
  month : Nat
  day : Nat
  hour : Nat
  minute : Nat
  second : Nat
  nanos : Nat
  offset : Int
deriving DecidableEq

/-- The instant that the fields denote and the offset at which they denote it, if each field is in
its range, the day exists and the instant is in the range of the calendar. -/
def Fields.resolve? (f : Fields) : Option (Instant × Offset) := do
  guard (f.hour < 24 ∧ f.minute < 60 ∧ f.second ≤ 60 ∧ f.nanos < 1000000000)
  let date ← Date.of? f.year f.month f.day
  let offset ← Offset.of? f.offset
  let leap := f.second = 60
  let second := if leap then 59 else f.second
  let nanos := if leap then f.nanos + 1000000000 else f.nanos
  let wall := date.dayNumber * secondsPerDay + f.hour * 3600 + f.minute * 60 + second
  if h : (minSeconds ≤ wall - offset.seconds ∧ wall - offset.seconds ≤ maxSeconds) ∧
      nanos < 2000000000 then
    return (⟨wall - offset.seconds, nanos, h.1.1, h.1.2, h.2⟩, offset)
  else
    none

/-! ### The strict grammar -/

/-- The fields of a whole text in the strict grammar. -/
def strictFields : Reader Fields := do
  let year ← number 4 4
  literal '-'
  let month ← number 2 2
  literal '-'
  let day ← number 2 2
  joint
  let hour ← number 2 2
  literal ':'
  let minute ← number 2 2
  literal ':'
  let second ← number 2 2
  let nanos ← fraction
  let offset ← offset (literal ':')
  atEnd
  return ⟨year, month, day, hour, minute, second, nanos, offset⟩

/-! ### The relaxed grammar -/

/-- A year: with a sign any number of digits, without one at most four. -/
def relaxedYear : Reader Int := fun cs =>
  match skipWhiteSpace cs with
  | '-' :: rest => (number 1 rest.length rest).map fun (n, rest) => (-(n : Int), rest)
  | '+' :: rest => (number 1 rest.length rest).map fun (n, rest) => ((n : Int), rest)
  | rest => (number 1 4 rest).map fun (n, rest) => ((n : Int), rest)

/-- One or two digits after any white space. -/
def relaxedNumber : Reader Nat := do
  blanks
  number 1 2

/-- A given character after any white space. -/
def relaxedLiteral (c : Char) : Reader Unit := do
  blanks
  literal c

/-- What may stand between the hours and minutes of an offset in the relaxed grammar. -/
def relaxedSeparator : Reader Unit := fun cs =>
  some ((), cs.dropWhile fun c => c == ':' || isWhiteSpace c)

/-- An offset in the relaxed grammar: `UTC` in any case, or else as usual. -/
def relaxedOffset : Reader Int := fun cs =>
  if (cs.take 3).map Char.toUpper = ['U', 'T', 'C'] then some (0, cs.drop 3)
  else offset relaxedSeparator cs

/-- The fields of a whole text in the relaxed grammar. -/
def relaxedFields : Reader Fields := do
  let year ← relaxedYear
  relaxedLiteral '-'
  let month ← relaxedNumber
  relaxedLiteral '-'
  let day ← relaxedNumber
  joint
  let hour ← relaxedNumber
  relaxedLiteral ':'
  let minute ← relaxedNumber
  relaxedLiteral ':'
  let second ← relaxedNumber
  let nanos ← fraction
  blanks
  let offset ← relaxedOffset
  blanks
  atEnd
  return ⟨year, month, day, hour, minute, second, nanos, offset⟩

end Timestamp

/-- The instant of a text in the relaxed grammar. -/
def Instant.ofText? (s : String) : Option Instant := do
  let (fields, _) ← Timestamp.relaxedFields s.toList
  let (instant, _) ← fields.resolve?
  return instant

/-- The instant of a text in the strict grammar, looked at in a zone with the offset it is written
with. -/
def ZonedTime.ofText? (s : String) : Option ZonedTime := do
  let (fields, _) ← Timestamp.strictFields s.toList
  let (instant, offset) ← fields.resolve?
  return ⟨instant, Zone.fixed offset⟩

end TrackCriteria.Calendar
