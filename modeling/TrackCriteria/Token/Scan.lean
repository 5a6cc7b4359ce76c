import TrackCriteria.Text.Bytes
import TrackCriteria.Text.CharClass
import TrackCriteria.Token

/-!
# From text to tokens

The source is read from the front. White space separates tokens and is dropped; every other
character belongs to exactly one token. A token takes as many characters as it can: `<=` is one
token, a word goes on over letters, numbers and underscores, a date or duration over ASCII letters,
digits and hyphens, and a quoted text to the next quote, whatever stands in between.
-/

namespace TrackCriteria

open Text (byteLength isWhiteSpace isAsciiDigit isAlphabetic isValueChar isWordChar)

namespace Token

/-- The kind of a token that is one character, or two if `second` follows. -/
def pair (second : Char) (double single : Kind) (cs : List Char) : Kind × List Char :=
  if cs.head? = some second then (double, [second]) else (single, [])

/-- The token after an opening quote: a quoted text up to the closing one, or else all there is. -/
def quoted (cs : List Char) : Kind × List Char :=
  let text := cs.takeWhile (· != '"')
  if (cs.drop text.length).isEmpty then (.unterminatedString, cs)
  else (.string (String.ofList text), text ++ ['"'])

/-- The kind of a word. -/
def wordKind (w : List Char) : Kind :=
  match Keyword.ofWord? w with
  | some k => .keyword k
  | none => .identifier (String.ofList w)

/-- The kind of the token that starts with `c` and the characters that it takes after `c`. -/
def first (c : Char) (cs : List Char) : Kind × List Char :=
  if c = '(' then (.leftParen, [])
  else if c = ')' then (.rightParen, [])
  else if c = ':' then (.colon, [])
  else if c = '=' then (.comparison .eq, [])
  else if c = '!' then (.not, [])
  else if c = '<' then pair '=' (.comparison .le) (.comparison .lt) cs
  else if c = '>' then pair '=' (.comparison .ge) (.comparison .gt) cs
  else if c = '&' then pair '&' .and (.illegal '&') cs
  else if c = '|' then pair '|' .or (.illegal '|') cs
  else if c = '"' then quoted cs
  else if isAsciiDigit c then
    let more := cs.takeWhile isValueChar
    (.value (String.ofList (c :: more)), more)
  else if isAlphabetic c then
    let more := cs.takeWhile isWordChar
    (wordKind (c :: more), more)
  else (.illegal c, [])

/-- The tokens of a text that starts at a byte of the source, where the first `taken` characters
belong to a token that has been read. -/
def scanFrom (start taken : Nat) : List Char → List Token
  | [] => []
  | c :: cs =>
    match taken with
    | taken + 1 => scanFrom (start + c.utf8Size) taken cs
    | 0 =>
      if isWhiteSpace c then scanFrom (start + c.utf8Size) 0 cs
      else
        let (kind, more) := first c cs
        ⟨kind, start, start + byteLength (c :: more)⟩ ::
          scanFrom (start + c.utf8Size) more.length cs

/-- The tokens of a source, those that are no part of the language included. -/
def scan (source : String) : List Token :=
  scanFrom 0 0 source.toList

end Token

end TrackCriteria
