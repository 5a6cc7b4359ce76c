import TrackCriteria.Token

/-!
# Syntax errors

Why a source is rejected, what is said about it, and where in the source the cause lies.
-/

namespace TrackCriteria

/-- How deep negations and parentheses may be nested. -/
def maxDepth : Nat := 256

/-- What the language allows at the place of an error. -/
inductive Expectation where
  | expression
  | closingParen
  | colon
  | quotedString
  | comparison
  | dateOrDuration
deriving DecidableEq

/-- How a message names what was expected. -/
def Expectation.description : Expectation → String
  | .expression => "an expression"
  | .closingParen => "')'"
  | .colon => "':'"
  | .quotedString => "a quoted string"
  | .comparison => "a comparison operator"
  | .dateOrDuration => "a date or duration"

/-- Why a source is rejected. -/
inductive SyntaxError where
  /-- There is no token. -/
  | empty
  /-- A quote is never closed. -/
  | unterminatedString (span : Span)
  /-- A character starts no token. -/
  | illegalCharacter (c : Char) (span : Span)
  /-- A word that is no keyword stands where an expression should. -/
  | unknownKeyword (word : String) (span : Span)
  /-- A token stands where another one should. -/
  | unexpectedToken (expected : Expectation) (found : Token.Kind) (span : Span)
  /-- The source ends where a token should stand. -/
  | unexpectedEnd (expected : Expectation)
  /-- The source ends before a parenthesis is closed. -/
  | unclosedParen (span : Span)
  /-- A closing parenthesis closes nothing. -/
  | unmatchedParen (span : Span)
  /-- A complete expression is followed by another token. -/
  | trailingInput (found : Token.Kind) (span : Span)
  /-- A date or duration is not well formed, or the day does not exist. -/
  | invalidDate (literal : String) (span : Span)
  /-- Negations and parentheses are nested too deep. -/
  | nestingTooDeep (span : Span)
deriving DecidableEq

namespace SyntaxError

/-- The stretch of the source that the error is about, if there is one. -/
def span? : SyntaxError → Option Span
  | .empty => none
  | .unterminatedString span => some span
  | .illegalCharacter _ span => some span
  | .unknownKeyword _ span => some span
  | .unexpectedToken _ _ span => some span
  | .unexpectedEnd _ => none
  | .unclosedParen span => some span
  | .unmatchedParen span => some span
  | .trailingInput _ span => some span
  | .invalidDate _ span => some span
  | .nestingTooDeep span => some span

/-- What is said about the error. -/
def message : SyntaxError → String
  | .empty => "smart criteria is empty"
  | .unterminatedString span => "unterminated string starting at " ++ span.text
  | .illegalCharacter c span =>
    "unexpected character '" ++ String.singleton c ++ "' at " ++ span.text
  | .unknownKeyword word span => "unknown keyword `" ++ word ++ "` at " ++ span.text
  | .unexpectedToken expected found span =>
    "expected " ++ expected.description ++ ", found " ++ found.description ++ " at " ++ span.text
  | .unexpectedEnd expected =>
    "expected " ++ expected.description ++ ", but reached end of input"
  | .unclosedParen span => "unclosed '(' at " ++ span.text
  | .unmatchedParen span => "unmatched ')' at " ++ span.text
  | .trailingInput found span =>
    "unexpected " ++ found.description ++ " after complete expression at " ++ span.text
  | .invalidDate literal span =>
    "invalid date or duration `" ++ literal ++ "` at " ++ span.text
  | .nestingTooDeep span =>
    "expression nested deeper than " ++ maxDepth.repr ++ " levels at " ++ span.text

end SyntaxError

end TrackCriteria
