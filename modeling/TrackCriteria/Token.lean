import TrackCriteria.Criteria.Basic

/-!
# Tokens of the criteria language

A token is a kind together with the stretch of the source that it was read from. Two kinds stand
for text that is no part of the language: a character that starts no token, and a quote that is
never closed.
-/

namespace TrackCriteria

/-! ### Spans -/

/-- A stretch of the source, in bytes of its UTF-8 form; `stop` is the first byte after it. -/
structure Span where
  start : Nat
  stop : Nat
deriving DecidableEq

/-- The text of a span, `start..stop`. -/
def Span.text (s : Span) : String :=
  s.start.repr ++ ".." ++ s.stop.repr

/-! ### Keywords -/

/-- The words with a meaning in the language. -/
inductive Keyword where
  | clean
  | explicit
  | unlabeled
  | text (field : TextField)
  | date (field : DateField)
deriving DecidableEq

namespace Keyword

/-- The keyword in lower case. -/
def word : Keyword → String
  | .clean => "clean"
  | .explicit => "explicit"
  | .unlabeled => "unlabeled"
  | .text field => field.keyword
  | .date field => field.keyword

/-- All keywords. -/
def all : List Keyword :=
  [.clean, .explicit, .unlabeled, .text .name, .text .label, .text .album, .text .artist,
   .date .added, .date .released]

/-- The keyword that a word spells in any mixture of ASCII cases. -/
def ofWord? (w : List Char) : Option Keyword :=
  all.find? fun k => k.word.toList = w.map Char.toLower

end Keyword

/-! ### Tokens -/

namespace Token

/-- What a token is. -/
inductive Kind where
  | keyword (k : Keyword)
  /-- Another word. -/
  | identifier (word : String)
  /-- A quoted text, without its quotes. -/
  | string (text : String)
  /-- A date or duration. -/
  | value (literal : String)
  | leftParen
  | rightParen
  | colon
  | not
  | and
  | or
  | comparison (op : Comparison)
  /-- A character that starts no token. -/
  | illegal (c : Char)
  /-- A quote that is never closed. -/
  | unterminatedString
deriving DecidableEq

/-- How a message names a token. -/
def Kind.description : Kind → String
  | .keyword k => "`" ++ k.word ++ "`"
  | .identifier word => "`" ++ word ++ "`"
  | .string text => "\"" ++ text ++ "\""
  | .value literal => "`" ++ literal ++ "`"
  | .leftParen => "'('"
  | .rightParen => "')'"
  | .colon => "':'"
  | .not => "'!'"
  | .and => "'&&'"
  | .or => "'||'"
  | .comparison op => "'" ++ op.symbol ++ "'"
  | .illegal c => "'" ++ String.singleton c ++ "'"
  | .unterminatedString => "unterminated string"

end Token

/-- A token of the source. -/
structure Token where
  kind : Token.Kind
  span : Span
deriving DecidableEq

end TrackCriteria
