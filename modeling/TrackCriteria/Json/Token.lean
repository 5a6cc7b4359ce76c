import TrackCriteria.Text.CharClass

/-!
# Tokens of JSON

A document is first split into tokens: punctuation, the three words, numbers and strings. Where the
text is no token, the list ends with `broken`, so that whoever reads the tokens in order meets the
fault in its place and after everything that stands before it.

An escape in a string may be half of a surrogate pair that lacks its other half. Such a string is a
token, but it denotes no text.
-/

namespace TrackCriteria.Json

open Text (isAsciiDigit)

/-! ### Strings -/

/-- What the text of a string is made of: characters, and 16-bit units given by an escape. -/
inductive Piece where
  | char (c : Char)
  | unit (n : Nat)

/-- The value of a hexadecimal digit of either case. -/
def hexValue? (c : Char) : Option Nat :=
  if '0' ≤ c ∧ c ≤ '9' then some (c.toNat - '0'.toNat)
  else if 'a' ≤ c ∧ c ≤ 'f' then some (c.toNat - 'a'.toNat + 10)
  else if 'A' ≤ c ∧ c ≤ 'F' then some (c.toNat - 'A'.toNat + 10)
  else none

/-- The value of four hexadecimal digits. -/
def hexValue4? (a b c d : Char) : Option Nat := do
  return ((← hexValue? a) * 16 + (← hexValue? b)) * 256 + (← hexValue? c) * 16 + (← hexValue? d)

/-- The character of an escape other than `\u`. -/
def escaped? (c : Char) : Option Char :=
  match c with
  | '"' => some '"'
  | '\\' => some '\\'
  | '/' => some '/'
  | 'b' => some '\x08'
  | 'f' => some '\x0c'
  | 'n' => some '\n'
  | 'r' => some '\r'
  | 't' => some '\t'
  | _ => none

/-- The pieces of a string after its opening quote, and what follows its closing one. -/
def readString : List Char → Option (List Piece × List Char)
  | [] => none
  | '"' :: rest => some ([], rest)
  | '\\' :: 'u' :: a :: b :: c :: d :: rest => do
    let n ← hexValue4? a b c d
    let (pieces, rest) ← readString rest
    return (.unit n :: pieces, rest)
  | '\\' :: c :: rest => do
    let c ← escaped? c
    let (pieces, rest) ← readString rest
    return (.char c :: pieces, rest)
  | c :: rest =>
    if c.toNat < 0x20 then none
    else do
      let (pieces, rest) ← readString rest
      return (.char c :: pieces, rest)

/-- The text of some pieces. The units of a surrogate pair make up one character; a unit of a pair
that stands alone makes up none. -/
def join? : List Piece → Option (List Char)
  | [] => some []
  | .char c :: pieces => (join? pieces).map (c :: ·)
  | .unit n :: pieces =>
    if n < 0xd800 ∨ 0xe000 ≤ n then (join? pieces).map (Char.ofNat n :: ·)
    else match pieces with
      | .unit m :: pieces =>
        if n < 0xdc00 ∧ 0xdc00 ≤ m ∧ m < 0xe000 then
          (join? pieces).map (Char.ofNat ((n - 0xd800) * 0x400 + (m - 0xdc00) + 0x10000) :: ·)
        else none
      | _ => none

/-! ### Numbers -/

/-- What follows one or more digits. -/
def afterDigits? (cs : List Char) : Option (List Char) :=
  match cs with
  | c :: rest => if isAsciiDigit c then some (rest.dropWhile isAsciiDigit) else none
  | [] => none

/-- What follows the whole part of a number. A zero at the front stands alone. -/
def afterWhole? (cs : List Char) : Option (List Char) :=
  match cs with
  | '0' :: rest => some rest
  | _ => afterDigits? cs

/-- What follows the fraction of a number, if it has one. -/
def afterFraction? (cs : List Char) : Option (List Char) :=
  match cs with
  | '.' :: rest => afterDigits? rest
  | _ => some cs

/-- What follows the exponent of a number, if it has one. -/
def afterExponent? (cs : List Char) : Option (List Char) :=
  match cs with
  | c :: rest =>
    if c = 'e' ∨ c = 'E' then
      match rest with
      | '+' :: digits => afterDigits? digits
      | '-' :: digits => afterDigits? digits
      | _ => afterDigits? rest
    else some cs
  | [] => some []

/-- What follows a number at the front of the text. -/
def afterNumber? (cs : List Char) : Option (List Char) := do
  let cs ← afterWhole? (match cs with | '-' :: rest => rest | _ => cs)
  let cs ← afterFraction? cs
  afterExponent? cs

/-! ### Tokens -/

/-- A token. -/
inductive Token where
  | leftBrace
  | rightBrace
  | leftBracket
  | rightBracket
  | colon
  | comma
  | null
  | bool (value : Bool)
  | number
  /-- A string, with its text if its escapes denote one. -/
  | string (text : Option String)
  /-- Text that is no token. -/
  | broken
deriving DecidableEq

/-- Whether the character may stand between tokens. -/
def isBlank (c : Char) : Bool :=
  c == ' ' || c == '\n' || c == '\t' || c == '\r'

/-- The token that starts with `c`, and what follows it. -/
def first (c : Char) (cs : List Char) : Token × List Char :=
  match c with
  | '\x7b' => (.leftBrace, cs)
  | '\x7d' => (.rightBrace, cs)
  | '[' => (.leftBracket, cs)
  | ']' => (.rightBracket, cs)
  | ':' => (.colon, cs)
  | ',' => (.comma, cs)
  | '"' =>
    match readString cs with
    | some (pieces, rest) => (.string ((join? pieces).map String.ofList), rest)
    | none => (.broken, [])
  | _ =>
    if c = 'n' ∧ cs.take 3 = ['u', 'l', 'l'] then (.null, cs.drop 3)
    else if c = 't' ∧ cs.take 3 = ['r', 'u', 'e'] then (.bool true, cs.drop 3)
    else if c = 'f' ∧ cs.take 4 = ['a', 'l', 's', 'e'] then (.bool false, cs.drop 4)
    else match afterNumber? (c :: cs) with
      | some rest => (.number, rest)
      | none => (.broken, [])

/-- The first tokens of a text, at most `bound` of them. -/
def scanUpTo : Nat → List Char → List Token
  | 0, _ => []
  | bound + 1, cs =>
    match cs.dropWhile isBlank with
    | [] => []
    | c :: cs =>
      let (token, rest) := first c cs
      token :: scanUpTo bound rest

/-- The tokens of a text. Each has a character, so there are no more tokens than characters. -/
def scan (text : String) : List Token :=
  scanUpTo text.length text.toList

end TrackCriteria.Json
