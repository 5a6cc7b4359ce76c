import TrackCriteria.Text.CharClass

/-!
# Quoted text

A text between double quotes that shows what cannot be seen: quotes and backslashes, tabs and ends
of lines are written with a backslash, and so are the characters that have no picture of their own,
by their code point in hexadecimal.
-/

namespace TrackCriteria.Text

/-- A character inside quotes. -/
def quotedChar (c : Char) : List Char :=
  if c = '\x00' then ['\\', '0']
  else if c = '\t' then ['\\', 't']
  else if c = '\r' then ['\\', 'r']
  else if c = '\n' then ['\\', 'n']
  else if c = '"' then ['\\', '"']
  else if c = '\\' then ['\\', '\\']
  else if isUnprintable c then
    '\\' :: 'u' :: '\x7b' :: (Nat.toDigits 16 c.toNat ++ ['\x7d'])
  else [c]

/-- A text in quotes. -/
def quoted (s : String) : String :=
  String.ofList ('"' :: (s.toList.flatMap quotedChar ++ ['"']))

end TrackCriteria.Text
