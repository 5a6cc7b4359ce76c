/-!
# Writing JSON

Documents to be written are made of strings, truth values, arrays and objects; the members of an
object keep their order. There are two layouts: the compact one has no white space, the indented one
puts each item and each member on a line of its own, two blanks deeper than its surroundings.
-/

namespace TrackCriteria

/-- A document to be written. -/
inductive Json where
  | string (text : String)
  | bool (value : Bool)
  | array (items : List Json)
  | object (members : List (String × Json))

namespace Json

/-! ### Strings -/

/-- A hexadecimal digit. -/
def hexDigit (n : Nat) : Char :=
  Nat.digitChar n

/-- A character inside a string. Quotes, backslashes and control characters are escaped. -/
def escapeChar (c : Char) : List Char :=
  if c = '"' then ['\\', '"']
  else if c = '\\' then ['\\', '\\']
  else if c = '\n' then ['\\', 'n']
  else if c = '\r' then ['\\', 'r']
  else if c = '\t' then ['\\', 't']
  else if c = '\x08' then ['\\', 'b']
  else if c = '\x0c' then ['\\', 'f']
  else if c.toNat < 0x20 then
    ['\\', 'u', '0', '0', hexDigit (c.toNat / 16), hexDigit (c.toNat % 16)]
  else [c]

/-- A string with its quotes. -/
def quote (s : String) : String :=
  String.ofList ('"' :: (s.toList.flatMap escapeChar ++ ['"']))

/-- A truth value. -/
def boolText (b : Bool) : String :=
  if b then "true" else "false"

/-! ### The compact layout -/

mutual

/-- A document without white space. -/
def compact : Json → String
  | .string text => quote text
  | .bool value => boolText value
  | .array items => "[" ++ compactItems items ++ "]"
  | .object members => "\x7b" ++ compactMembers members ++ "\x7d"

/-- Items with a comma between each two. -/
def compactItems : List Json → String
  | [] => ""
  | [item] => compact item
  | item :: items => compact item ++ "," ++ compactItems items

/-- Members with a comma between each two. -/
def compactMembers : List (String × Json) → String
  | [] => ""
  | [(key, value)] => quote key ++ ":" ++ compact value
  | (key, value) :: members =>
    quote key ++ ":" ++ compact value ++ "," ++ compactMembers members

end

/-! ### The indented layout -/

/-- The start of a line at a depth of nesting. -/
def newLine (depth : Nat) : String :=
  "\n" ++ String.ofList (List.replicate (2 * depth) ' ')

mutual

/-- A document at a depth of nesting, one item or member to a line. -/
def indentedAt (depth : Nat) : Json → String
  | .string text => quote text
  | .bool value => boolText value
  | .array [] => "[]"
  | .array (item :: items) =>
    "[" ++ newLine (depth + 1) ++ indentedAt (depth + 1) item ++
      indentedItems (depth + 1) items ++ newLine depth ++ "]"
  | .object [] => "\x7b\x7d"
  | .object ((key, value) :: members) =>
    "\x7b" ++ newLine (depth + 1) ++ quote key ++ ": " ++ indentedAt (depth + 1) value ++
      indentedMembers (depth + 1) members ++ newLine depth ++ "\x7d"

/-- The items after the first one. -/
def indentedItems (depth : Nat) : List Json → String
  | [] => ""
  | item :: items => "," ++ newLine depth ++ indentedAt depth item ++ indentedItems depth items

/-- The members after the first one. -/
def indentedMembers (depth : Nat) : List (String × Json) → String
  | [] => ""
  | (key, value) :: members =>
    "," ++ newLine depth ++ quote key ++ ": " ++ indentedAt depth value ++
      indentedMembers depth members

end

/-- A document, one item or member to a line. -/
def indented (j : Json) : String :=
  indentedAt 0 j

end Json

end TrackCriteria
