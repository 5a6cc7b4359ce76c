import TrackCriteria.Proofs.Text.Digits
import TrackCriteria.Sql.Text

/-!
# The lexemes of a statement

A text is read character by character, as PostgreSQL does: a name stands in double quotes, and two
quotes in it stand for one; `$` and digits are the place of a value; words mean the same in capitals
or not; and the longest run of operator characters is one operator. Only what statements need is
read: a text with a comment, a literal or another operator has no lexemes. Names may have any
length.

Texts are read piece by piece. A piece may depend on what comes next, since a name may go on with a
quote and a place with a digit (`Lexes`), or not depend on it (`Closes`). A name that is written in
quotes is read back whatever characters are in it (`lexes_nameText`).
-/

namespace TrackCriteria.Sql

open Text (isAsciiDigit isAsciiLetter)
open Text.Decimal (value)

/-! ### Lexemes -/

/-- The words of a statement. -/
inductive Word where
  | select
  | from
  | inner
  | join
  | on
  | where
  | and
  | or
  | not
  | in
  | exists
  | limit
deriving DecidableEq

/-- A word in capitals. -/
def Word.text : Word → String
  | .select => "SELECT"
  | .from => "FROM"
  | .inner => "INNER"
  | .join => "JOIN"
  | .on => "ON"
  | .where => "WHERE"
  | .and => "AND"
  | .or => "OR"
  | .not => "NOT"
  | .in => "IN"
  | .exists => "EXISTS"
  | .limit => "LIMIT"

/-- What a statement is made of. -/
inductive Lexeme where
  | name (s : String)
  /-- The place of a value. -/
  | place (n : Nat)
  | word (w : Word)
  | comparison (op : Comparison)
  | star
  | dot
  | leftParen
  | rightParen
deriving DecidableEq

/-- The word that some characters spell, in capitals or not. -/
def Word.ofChars? (cs : List Char) : Option Word :=
  [Word.select, .from, .inner, .join, .on, .where, .and, .or, .not, .in, .exists, .limit].find?
    fun w => w.text.toList = cs.map Char.toUpper

/-- The operator that some characters spell. -/
def Lexeme.ofOperator? (cs : List Char) : Option Lexeme :=
  if cs = ['*'] then some .star
  else ([Comparison.eq, .lt, .le, .gt, .ge].find? fun op => op.symbol.toList = cs).map .comparison

/-- Whether an operator can go on with the character. -/
def isOperatorChar (c : Char) : Bool :=
  "+-*/<>=~!@#%^&|`?".toList.contains c

/-- Whether the character separates lexemes. -/
def isSpace (c : Char) : Bool :=
  " \t\n\r\x0b\x0c".toList.contains c

/-! ### Reading lexemes -/

/-- A lexeme that has been begun, with its characters from the last to the first. -/
inductive Pending where
  | none
  /-- A name after its first quote. It is closed after a quote that may be its last one. -/
  | name (cs : List Char) (closed : Bool)
  | place (cs : List Char)
  | word (cs : List Char)
  | operator (cs : List Char)

namespace Pending

/-- The pending lexeme as it goes on with the character. -/
def continue? (c : Char) : Pending → Option Pending
  | .none => Option.none
  | .name cs false => some (if c = '"' then .name cs true else .name (c :: cs) false)
  | .name cs true => if c = '"' then some (.name (c :: cs) false) else Option.none
  | .place cs => if isAsciiDigit c then some (.place (c :: cs)) else Option.none
  | .word cs => if isAsciiLetter c then some (.word (c :: cs)) else Option.none
  | .operator cs => if isOperatorChar c then some (.operator (c :: cs)) else Option.none

/-- The lexemes, from the last to the first, once the pending one has ended. -/
def close? (done : List Lexeme) : Pending → Option (List Lexeme)
  | .none => some done
  | .name _ false => Option.none
  | .name cs true => some (.name (String.ofList cs.reverse) :: done)
  | .place [] => Option.none
  | .place (c :: cs) => some (.place (value (c :: cs).reverse) :: done)
  | .word cs => (Word.ofChars? cs.reverse).map (.word · :: done)
  | .operator cs => (Lexeme.ofOperator? cs.reverse).map (· :: done)

/-- The lexemes and the pending one once a character begins the next. -/
def open? (done : List Lexeme) (c : Char) : Option (List Lexeme × Pending) :=
  if isSpace c then some (done, .none)
  else if c = '(' then some (.leftParen :: done, .none)
  else if c = ')' then some (.rightParen :: done, .none)
  else if c = '.' then some (.dot :: done, .none)
  else if c = '"' then some (done, .name [] false)
  else if c = '$' then some (done, .place [])
  else if isAsciiLetter c then some (done, .word [c])
  else if isOperatorChar c then some (done, .operator [c])
  else Option.none

end Pending

/-- The lexemes of a text, after those that are done, from the last to the first, and a pending
one. -/
def scan (done : List Lexeme) (pending : Pending) : List Char → Option (List Lexeme)
  | [] => (pending.close? done).map List.reverse
  | c :: cs =>
    match pending.continue? c with
    | some pending => scan done pending cs
    | none =>
      match (pending.close? done).bind (Pending.open? · c) with
      | some (done, pending) => scan done pending cs
      | none => none

/-- The lexemes of a text, if it has no others than those of a statement. -/
def lexemes? (text : String) : Option (List Lexeme) :=
  scan [] .none text.toList

/-! ### Reading piece by piece -/

variable {cs cs' sep : List Char} {ls ls' ws : List Lexeme}

/-- Whether no name and no place goes on with the characters. -/
def IsBoundary (cs : List Char) : Prop :=
  ∀ c ∈ cs.head?, c ≠ '"' ∧ isAsciiDigit c = false

/-- The characters are read as some lexemes, provided that a boundary comes after them. -/
def Lexes (cs : List Char) (ls : List Lexeme) : Prop :=
  ∀ done rest, IsBoundary rest → scan done .none (cs ++ rest) = scan (ls.reverse ++ done) .none rest

/-- The characters are read as some lexemes, whatever comes after them. -/
def Closes (cs : List Char) (ls : List Lexeme) : Prop :=
  ∀ done rest, scan done .none (cs ++ rest) = scan (ls.reverse ++ done) .none rest

/-- The characters are read as some lexemes between any two pieces. -/
structure Separates (cs : List Char) (ls : List Lexeme) : Prop where
  boundary : ∀ rest, IsBoundary (cs ++ rest)
  closes : Closes cs ls

/-- A text separates pieces if its first character is one that no name and no place goes on with. -/
theorem Closes.separates (h : Closes cs ls) {c : Char} (hhead : cs.head? = some c)
    (hc : c ≠ '"' ∧ isAsciiDigit c = false) : Separates cs ls := by
  refine ⟨fun rest c' hc' => ?_, h⟩
  obtain ⟨tail, rfl⟩ := List.head?_eq_some_iff.mp hhead
  cases hc'
  exact hc

theorem lexes_nil : Lexes [] [] :=
  fun _ _ _ => rfl

theorem Closes.append (h : Closes cs ls) (h' : Lexes cs' ls') : Lexes (cs ++ cs') (ls ++ ls') := by
  intro done rest hrest
  rw [List.append_assoc, h, h' _ _ hrest, List.reverse_append, List.append_assoc]

/-- Two pieces with a separator between them. -/
theorem Lexes.append (h : Lexes cs ls) (hsep : Separates sep ws) (h' : Lexes cs' ls') :
    Lexes (cs ++ (sep ++ cs')) (ls ++ (ws ++ ls')) := by
  intro done rest hrest
  have hboundary : IsBoundary ((sep ++ cs') ++ rest) := by
    rw [List.append_assoc]
    exact hsep.boundary _
  rw [List.append_assoc, h _ _ hboundary, hsep.closes.append h' _ _ hrest]
  simp only [List.reverse_append, List.append_assoc]

/-- A separator closes a piece. -/
theorem Lexes.closes (h : Lexes cs ls) (hsep : Separates sep ws) :
    Closes (cs ++ sep) (ls ++ ws) := by
  intro done rest
  rw [List.append_assoc, h _ _ (hsep.boundary rest), hsep.closes, List.reverse_append,
    List.append_assoc]

theorem lexemes?_eq (h : Lexes cs ls) {text : String} (htext : text.toList = cs) :
    lexemes? text = some ls := by
  have hscan := h [] [] (by rintro c ⟨⟩)
  rw [List.append_nil, List.append_nil] at hscan
  rw [lexemes?, htext, hscan, scan, Pending.close?, Option.map_some, List.reverse_reverse]

/-- A pending lexeme that can not go on has ended. -/
theorem scan_of_ends {pending : Pending} {done done' : List Lexeme} {rest : List Char}
    (hclose : pending.close? done = some done')
    (hends : ∀ c ∈ rest.head?, pending.continue? c = none) :
    scan done pending rest = scan done' .none rest := by
  cases rest with
  | nil => rw [scan, scan, hclose, Pending.close?]
  | cons c cs =>
    rw [scan, scan, hends c rfl, hclose]
    rfl

/-! ### Names -/

/-- Inside of quotes every character is read, and two quotes as one. -/
theorem scan_name (done : List Lexeme) (name acc rest : List Char) :
    scan done (.name acc false)
        (name.flatMap (fun c => if c = '"' then ['"', '"'] else [c]) ++ rest) =
      scan done (.name (name.reverse ++ acc) false) rest := by
  induction name generalizing acc with
  | nil => rfl
  | cons c name ih =>
    have hreverse : (c :: name).reverse ++ acc = name.reverse ++ c :: acc := by
      rw [List.reverse_cons, List.append_assoc, List.singleton_append]
    rw [List.flatMap_cons, List.append_assoc, hreverse, ← ih]
    by_cases hc : c = '"'
    · subst hc
      rfl
    · rw [if_neg hc, List.singleton_append, scan, Pending.continue?, if_neg hc]

theorem lexes_nameText (name : String) : Lexes (nameText name).toList [.name name] := by
  intro done rest hrest
  -- The characters are collected from the front, so they are read backwards at the end.
  have hclose : Pending.close? done (.name (name.toList.reverse ++ []) true) =
      some (.name name :: done) := by
    rw [Pending.close?, List.append_nil, List.reverse_reverse, String.ofList_toList]
  -- A second quote would go on with the name, but the text behind does not start with one.
  have hends : ∀ c ∈ rest.head?,
      Pending.continue? c (.name (name.toList.reverse ++ []) true) = none :=
    fun c hc => if_neg (hrest c hc).1
  calc scan done .none ((nameText name).toList ++ rest)
      = scan done (.name [] false)
          (name.toList.flatMap (fun c => if c = '"' then ['"', '"'] else [c]) ++ '"' :: rest) := by
        rw [nameText, String.toList_ofList, List.append_assoc]
        rfl
    _ = scan done (.name (name.toList.reverse ++ []) false) ('"' :: rest) := scan_name ..
    _ = scan done (.name (name.toList.reverse ++ []) true) rest := rfl
    _ = scan (.name name :: done) .none rest := scan_of_ends hclose hends

/-- A column is two names. -/
theorem lexes_column (c : Column) : Lexes c.text.toList [.name c.table, .dot, .name c.name] := by
  have hdot : Separates ['.'] [.dot] := Closes.separates (fun _ _ => rfl) rfl (by decide)
  have h := (lexes_nameText c.table).append hdot (lexes_nameText c.name)
  rwa [Column.text, String.toList_append, String.toList_append, List.append_assoc]

/-! ### Places -/

theorem scan_place (done : List Lexeme) {digits : List Char}
    (hdigits : ∀ c ∈ digits, isAsciiDigit c = true) (acc rest : List Char) :
    scan done (.place acc) (digits ++ rest) =
      scan done (.place (digits.reverse ++ acc)) rest := by
  induction digits generalizing acc with
  | nil => rfl
  | cons c digits ih =>
    obtain ⟨hc, hrest⟩ := List.forall_mem_cons.mp hdigits
    have hreverse : (c :: digits).reverse ++ acc = digits.reverse ++ c :: acc := by
      rw [List.reverse_cons, List.append_assoc, List.singleton_append]
    rw [hreverse, ← ih hrest, List.cons_append, scan, Pending.continue?, if_pos hc]

theorem lexes_place (n : Nat) : Lexes ("$" ++ n.repr).toList [.place n] := by
  intro done rest hrest
  have hdigits : ∀ c ∈ Nat.toDigits 10 n, isAsciiDigit c = true := by
    intro c hc
    have hdigit : c.isDigit = true := Nat.isDigit_of_mem_toDigits (by decide) (by decide) hc
    exact hdigit
  have hclose : Pending.close? done (.place ((Nat.toDigits 10 n).reverse ++ [])) =
      some (.place n :: done) := by
    rw [List.append_nil]
    cases hreverse : (Nat.toDigits 10 n).reverse with
    | nil => exact absurd (List.reverse_eq_nil_iff.mp hreverse) Nat.toDigits_ne_nil
    | cons c cs =>
      rw [Pending.close?, ← hreverse, List.reverse_reverse, Text.Decimal.value_toDigits]
  -- A digit would go on with the number, but the text behind does not start with one.
  have hends : ∀ c ∈ rest.head?,
      Pending.continue? c (.place ((Nat.toDigits 10 n).reverse ++ [])) = none := by
    intro c hc
    rw [Pending.continue?, (hrest c hc).2]
    rfl
  have hrepr : n.repr.toList = Nat.toDigits 10 n := String.toList_ofList
  calc scan done .none (("$" ++ n.repr).toList ++ rest)
      = scan done (.place []) (Nat.toDigits 10 n ++ rest) := by
        rw [String.toList_append, hrepr]
        rfl
    _ = scan done (.place ((Nat.toDigits 10 n).reverse ++ [])) rest := scan_place _ hdigits _ _
    _ = scan (.place n :: done) .none rest := scan_of_ends hclose hends

end TrackCriteria.Sql
