import TrackCriteria.Json.Token

/-!
# Reading JSON

A reader takes a value of a known shape from the front of a list of tokens. Faults are met in the
order of the document: the first one decides what is reported, and nothing after it is looked at.

* A record is an object with the record's fields as members, in any order and with other members
  between them, or an array of the fields in their order. Fields with a default may be left out, in
  an array only from the end.
* A choice is the name of an alternative, or an object whose only member is the alternative with its
  content.
* Objects and arrays that are read may be nested so many levels deep; values of members that no one
  asked for are passed over at any depth.
-/

namespace TrackCriteria.Json

/-! ### Faults -/

/-- Why a document is rejected. -/
inductive Fault where
  /-- The text is no document, or not one of the expected shape. -/
  | malformed
  /-- A record ends without a field that has no default. -/
  | missingField (name : String)
  /-- A record has a field twice. -/
  | duplicateField (name : String)
  /-- A choice names none of the alternatives. -/
  | unknownVariant (name : String) (expected : List String)
deriving DecidableEq

/-- A name between backticks. -/
def nameText (name : String) : String :=
  "`" ++ name ++ "`"

/-- How a fault names the alternatives of a choice. -/
def variantsText : List String → String
  | [a, b] => nameText a ++ " or " ++ nameText b
  | names => "one of " ++ ", ".intercalate (names.map nameText)

/-- What is said about a fault, apart from faults of the text and of its shape. -/
def Fault.message? : Fault → Option String
  | .malformed => none
  | .missingField name => some ("missing field " ++ nameText name)
  | .duplicateField name => some ("duplicate field " ++ nameText name)
  | .unknownVariant name expected =>
    some ("unknown variant " ++ nameText name ++ ", expected " ++ variantsText expected)

/-! ### Readers -/

/-- A reader of a value from the front of a list of tokens. -/
abbrev Reader := StateT (List Token) (Except Fault)

namespace Reader

/-- Rejects the document for its shape. -/
def malformed {α : Type} : Reader α :=
  throw .malformed

/-- The next token. -/
def next : Reader Token := do
  match ← get with
  | [] => malformed
  | t :: ts => set ts; return t

/-- The next token, without passing it. -/
def peek : Reader Token := do
  match ← get with
  | [] => malformed
  | t :: _ => return t

/-- A given token. -/
def token (expected : Token) : Reader Unit := do
  if (← next) = expected then return () else malformed

/-- A string that denotes a text. -/
def string : Reader String := do
  match ← next with
  | .string (some text) => return text
  | _ => malformed

/-- A truth value. -/
def bool : Reader Bool := do
  match ← next with
  | .bool value => return value
  | _ => malformed

/-! ### Passing over values -/

/-- What may come next inside a value that is passed over. -/
inductive Place where
  /-- A value. -/
  | value
  /-- The first item of an array, or its end. -/
  | firstItem
  /-- The first member of an object, or its end. -/
  | firstMember
  /-- The name of a member. -/
  | name
  /-- The colon after the name of a member. -/
  | colon
  /-- A comma, or the end of the array or object. -/
  | separator

/-- An array or object that has not ended yet. -/
inductive Container where
  | array
  | object

/-- Where a reader is that passes over a value: at a place inside of some containers, or past the
value. -/
inductive Progress where
  | inside (place : Place) (stack : List Container)
  | past

/-- After a value that stands in some containers. -/
def afterValue : List Container → Progress
  | [] => .past
  | c :: stack => .inside .separator (c :: stack)

/-- After the token that starts a value. -/
def startValue (stack : List Container) : Token → Option Progress
  | .null => some (afterValue stack)
  | .bool _ => some (afterValue stack)
  | .number => some (afterValue stack)
  | .string _ => some (afterValue stack)
  | .leftBracket => some (.inside .firstItem (.array :: stack))
  | .leftBrace => some (.inside .firstMember (.object :: stack))
  | _ => none

/-- After a token at a place inside of some containers, if the token may stand there. -/
def pass : Place → List Container → Token → Option Progress
  | .value, stack, t => startValue stack t
  | .firstItem, .array :: stack, .rightBracket => some (afterValue stack)
  | .firstItem, stack, t => startValue stack t
  | .firstMember, .object :: stack, .rightBrace => some (afterValue stack)
  | .firstMember, stack, .string _ => some (.inside .colon stack)
  | .name, stack, .string _ => some (.inside .colon stack)
  | .colon, stack, .colon => some (.inside .value stack)
  | .separator, .array :: stack, .comma => some (.inside .value (.array :: stack))
  | .separator, .object :: stack, .comma => some (.inside .name (.object :: stack))
  | .separator, .array :: stack, .rightBracket => some (afterValue stack)
  | .separator, .object :: stack, .rightBrace => some (afterValue stack)
  | _, _, _ => none

/-- What follows a value that is passed over from a place inside of some containers on. -/
def skipFrom (place : Place) (stack : List Container) : List Token → Except Fault (List Token)
  | [] => throw .malformed
  | t :: ts =>
    match pass place stack t with
    | none => throw .malformed
    | some .past => return ts
    | some (.inside place stack) => skipFrom place stack ts

/-- Passes over a value of any shape. -/
def skip : Reader Unit := fun ts => do
  return ((), ← skipFrom .value [] ts)

/-! ### Lists -/

/-- The items of an array after the first one, at most `bound` of them, and its end. -/
def moreItems {α : Type} (item : Reader α) : Nat → Reader (List α)
  | 0 => malformed
  | bound + 1 => do
    match ← next with
    | .rightBracket => return []
    | .comma => return (← item) :: (← moreItems item bound)
    | _ => malformed

/-- An array of any length. -/
def list {α : Type} (levels : Nat) (item : Nat → Reader α) : Reader (List α) := do
  token .leftBracket
  match levels with
  | 0 => malformed
  | levels + 1 =>
    if (← peek) = .rightBracket then
      let _ ← next
      return []
    else
      return (← item levels) :: (← moreItems (item levels) (← get).length)

/-! ### Records -/

/-- A field of a record whose fields are collected in `σ`. -/
structure RecordField (σ : Type) where
  name : String
  /-- Whether the record has to have the field. -/
  required : Bool
  /-- Whether the field has been read. -/
  isRead : σ → Bool
  /-- Reads the content of the field, which may be nested so many levels deep. -/
  read : (levels : Nat) → σ → Reader σ

/-- A member of a record: a field that was not read before, or something else. -/
def member {σ : Type} (fields : List (RecordField σ)) (levels : Nat) (s : σ) : Reader σ := do
  let name ← string
  match fields.find? (·.name = name) with
  | some field =>
    if field.isRead s then throw (.duplicateField name)
    token .colon
    field.read levels s
  | none =>
    token .colon
    skip
    return s

/-- The members of a record after the first one, at most `bound` of them, and its end. -/
def moreMembers {σ : Type} (fields : List (RecordField σ)) (levels : Nat) : Nat → σ → Reader σ
  | 0, _ => malformed
  | bound + 1, s => do
    match ← next with
    | .rightBrace => return s
    | .comma => moreMembers fields levels bound (← member fields levels s)
    | _ => malformed

/-- The members of a record and its end. -/
def members {σ : Type} (fields : List (RecordField σ)) (levels : Nat) (s : σ) : Reader σ := do
  if (← peek) = .rightBrace then
    let _ ← next
    return s
  else
    let s ← member fields levels s
    moreMembers fields levels (← get).length s

/-- Fails at the first field that has to be read and has not been. -/
def checkRequired {σ : Type} (fields : List (RecordField σ)) (s : σ) : Reader Unit :=
  match fields.find? fun field => field.required && !field.isRead s with
  | some field => throw (.missingField field.name)
  | none => return ()

/-- The fields of a record as the items of an array, where `isFirst` says that no item has been
read. -/
def positions {σ : Type} (levels : Nat) : (isFirst : Bool) → List (RecordField σ) → σ → Reader σ
  | _, [], s => do
    token .rightBracket
    return s
  | isFirst, field :: fields, s => do
    if (← peek) = .rightBracket then
      if (field :: fields).any (·.required) then malformed
      let _ ← next
      return s
    else
      if !isFirst then token .comma
      positions levels false fields (← field.read levels s)

/-- A record, collected from what stands for no field read. -/
def record {σ : Type} (fields : List (RecordField σ)) (levels : Nat) (s : σ) : Reader σ := do
  match ← next, levels with
  | .leftBrace, levels + 1 => do
    let s ← members fields levels s
    checkRequired fields s
    return s
  | .leftBracket, levels + 1 => positions levels true fields s
  | _, _ => malformed

/-! ### Choices -/

/-- The alternative that a string names, among alternatives with their names. -/
def variant {α : Type} (alternatives : List (String × α)) : Reader α := do
  let name ← string
  match alternatives.find? (·.1 = name) with
  | some (_, a) => return a
  | none => throw (.unknownVariant name (alternatives.map (·.1)))

/-- A choice between alternatives. An alternative that is named alone is accepted by `alone`; the
content of an alternative in an object is read by `content`, if a level is left for the object. -/
def choice {α β : Type} (alternatives : List (String × α)) (alone : α → Option β)
    (content : Option (α → Reader β)) : Reader β := do
  match ← peek, content with
  | .leftBrace, some content => do
    let _ ← next
    let a ← variant alternatives
    token .colon
    let b ← content a
    token .rightBrace
    return b
  | .leftBrace, none => malformed
  | _, _ => do
    match alone (← variant alternatives) with
    | some b => return b
    | none => malformed

/-- A choice between alternatives without content; in an object, `null` stands for it. -/
def name {α : Type} (alternatives : List (String × α)) (levels : Nat) : Reader α :=
  choice alternatives some
    (if levels = 0 then none else some fun a => do
      token .null
      return a)

end Reader

/-- How many levels of objects and arrays may be nested in a document that is read. -/
def maxLevels : Nat := 127

/-- Reads a whole text as one document. -/
def read {α : Type} (reader : (levels : Nat) → Reader α) (text : String) : Except Fault α := do
  let (a, rest) ← reader maxLevels (scan text)
  if rest.isEmpty then return a else throw .malformed

end TrackCriteria.Json
