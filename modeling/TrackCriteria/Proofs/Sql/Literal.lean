import TrackCriteria.Proofs.Calendar.Timestamp
import TrackCriteria.Sql.Text

/-!
# Literals

What a literal of a value is is said apart from how it is written (`Value.IsLiteral`): a number is
its decimal digits, an instant the fields of its date and time in quotes, and a text stands in
quotes with escapes that can be undone (`unescape`). Each value has just one literal, the one that
is written (`Value.isLiteral_iff`).

The literal of a text is read as one whole by the rules of PostgreSQL, whatever characters are in
the text: a quote in it is always escaped, and so is a backslash, and the mark `E` stands in front
of just those literals that have escapes (`afterLiteral?_stringLiteral`).
-/

namespace TrackCriteria.Sql

variable {c letter : Char} {cs rest : List Char}

/-! ### Escapes -/

/-- The letter of each escape, and the character that it stands for. -/
def escapeTable : List (Char × Char) :=
  [('\\', '\\'), ('"', '"'), ('\'', '\''), ('0', '\x00'), ('b', '\x08'), ('t', '\t'),
    ('z', '\x1a'), ('n', '\n'), ('r', '\r')]

/-- Undoes the escapes between the quotes of a literal. A backslash with no letter of an escape
after it means nothing, and a character that there is an escape for may not stand on its own. -/
def unescape : List Char → Option (List Char)
  | [] => some []
  | '\\' :: letter :: body => do return (← escapeTable.lookup letter) :: (← unescape body)
  | c :: body => do
    guard (∀ e ∈ escapeTable, e.2 ≠ c)
    return c :: (← unescape body)

theorem mem_escapeTable_of_lookup (h : escapeTable.lookup letter = some c) :
    (letter, c) ∈ escapeTable := by
  obtain ⟨before, after, hsplit, -⟩ := List.lookup_eq_some_iff.mp h
  rw [hsplit]
  exact List.mem_append_right _ List.mem_cons_self

theorem escapeChar_of_mem (h : (letter, c) ∈ escapeTable) : escapeChar c = ['\\', letter] := by
  have hescape : ∀ e ∈ escapeTable, escapeChar e.2 = ['\\', e.1] := by decide
  exact hescape _ h

theorem escapeChar_of_plain (hc : ∀ e ∈ escapeTable, e.2 ≠ c) : escapeChar c = [c] := by
  simp only [escapeTable, List.forall_mem_cons, ne_comm] at hc
  simp [escapeChar, hc]

/-- A character is written as it is if there is no escape for it, and else as its escape. -/
theorem escapeChar_cases (c : Char) :
    ((∀ e ∈ escapeTable, e.2 ≠ c) ∧ escapeChar c = [c]) ∨
      ∃ letter, (letter, c) ∈ escapeTable ∧ escapeChar c = ['\\', letter] := by
  by_cases h : ∃ e ∈ escapeTable, e.2 = c
  · obtain ⟨⟨letter, c⟩, he, rfl⟩ := h
    exact .inr ⟨letter, he, escapeChar_of_mem he⟩
  · have hplain : ∀ e ∈ escapeTable, e.2 ≠ c := fun e he heq => h ⟨e, he, heq⟩
    exact .inl ⟨hplain, escapeChar_of_plain hplain⟩

theorem unescape_escape (h : (letter, c) ∈ escapeTable) (body : List Char) :
    unescape ('\\' :: letter :: body) = (unescape body).map (c :: ·) := by
  have hlookup : ∀ e ∈ escapeTable, escapeTable.lookup e.1 = some e.2 := by decide
  rw [unescape, hlookup _ h]
  cases unescape body <;> rfl

theorem unescape_plain (hc : ∀ e ∈ escapeTable, e.2 ≠ c) (body : List Char) :
    unescape (c :: body) = (unescape body).map (c :: ·) := by
  have hbackslash : c ≠ '\\' := fun heq => hc ('\\', '\\') (by decide) heq.symm
  rw [unescape.eq_3 c body (by simp [hbackslash]), guard, if_pos hc]
  cases unescape body <;> rfl

/-- The escapes of a text can be undone. -/
theorem unescape_flatMap_escapeChar (text : List Char) :
    unescape (text.flatMap escapeChar) = some text := by
  induction text with
  | nil => rfl
  | cons c text ih =>
    rw [List.flatMap_cons]
    rcases escapeChar_cases c with ⟨hplain, hc⟩ | ⟨letter, hletter, hc⟩
    · rw [hc, List.singleton_append, unescape_plain hplain, ih, Option.map_some]
    · rw [hc, List.cons_append, List.singleton_append, unescape_escape hletter, ih,
        Option.map_some]

/-- What the escapes of can be undone is written with them. -/
theorem eq_flatMap_escapeChar {body text : List Char} (h : unescape body = some text) :
    body = text.flatMap escapeChar := by
  -- The cases of the reading are the end of the body, an escape and a plain character.
  induction body using unescape.induct generalizing text with
  | case1 =>
    cases h
    rfl
  | case2 letter body ih =>
    simp only [unescape, Option.bind_eq_bind, Option.bind_eq_some_iff, Option.pure_def] at h
    obtain ⟨c, hletter, text, htext, h⟩ := h
    cases h
    rw [List.flatMap_cons, escapeChar_of_mem (mem_escapeTable_of_lookup hletter), ← ih htext]
    rfl
  | case3 c body hbackslash ih =>
    rw [unescape.eq_3 c body hbackslash] at h
    simp only [Option.bind_eq_bind, Option.bind_eq_some_iff, Option.guard_eq_some',
      Option.pure_def] at h
    obtain ⟨-, hplain, text, htext, h⟩ := h
    cases h
    rw [List.flatMap_cons, escapeChar_of_plain hplain, ← ih htext]
    rfl

/-! ### The literals of values -/

/-- A number in decimal digits, with zeros at the front up to a width. -/
def numeral (width n : Nat) : String :=
  String.ofList ((Nat.toDigits 10 n).leftpad width '0')

/-- A year in at least four digits; one that has more or that is negative has a sign. -/
def yearNumeral (year : Int) : String :=
  (if year < 0 then "-" else if year ≤ 9999 then "" else "+") ++ numeral 4 year.natAbs

/-- Whether a text is a literal of a value. A number is in decimal digits, and a truth value is a
word. An instant is in quotes, as its date and time in UTC with six digits of the fraction; a
second that goes on for longer than one second is a leap second. A text is in quotes, with escapes,
and there is a mark in front if there are any. -/
def Value.IsLiteral : Value → String → Prop
  | .bigint n, literal => literal = (if n < 0 then "-" else "") ++ n.natAbs.repr
  | .ubigint n, literal => literal = n.repr
  | .int n, literal => literal = (if n < 0 then "-" else "") ++ n.natAbs.repr
  | .bool true, literal => literal = "TRUE"
  | .bool false, literal => literal = "FALSE"
  | .string text, literal => ∃ body, unescape body = some text.toList ∧
      literal.toList = (if '\\' ∈ body then ['E'] else []) ++ '\'' :: body ++ ['\'']
  | .instant t, literal => ∃ (date : Calendar.Date) (hour minute second : Nat),
      t.seconds = date.dayNumber * 86400 + hour * 3600 + minute * 60 + second ∧
      hour < 24 ∧ minute < 60 ∧ second < 60 ∧
      literal = "'" ++ yearNumeral date.year ++ "-" ++ numeral 2 date.month ++ "-" ++
        numeral 2 date.day ++ " " ++ numeral 2 hour ++ ":" ++ numeral 2 minute ++ ":" ++
        numeral 2 (second + t.nanos / 1000000000) ++ "." ++
        numeral 6 (t.nanos % 1000000000 / 1000) ++ " +00:00'"

theorem toString_int (n : Int) : toString n = (if n < 0 then "-" else "") ++ n.natAbs.repr := by
  cases n with
  | ofNat n =>
    have hsign : ¬Int.ofNat n < 0 := Int.not_lt.mpr (Int.natCast_nonneg n)
    rw [if_neg hsign, String.empty_append]
    rfl
  | negSucc n =>
    rw [if_pos (Int.negSucc_lt_zero n)]
    rfl

/-- A text that is quoted in the way of a literal is the literal of the text. -/
theorem toList_eq_stringLiteral_iff (text : String) (cs : List Char) :
    (∃ body, unescape body = some text.toList ∧
      cs = (if '\\' ∈ body then ['E'] else []) ++ '\'' :: body ++ ['\'']) ↔
      cs = stringLiteral text := by
  have hliteral : stringLiteral text =
      (if '\\' ∈ text.toList.flatMap escapeChar then ['E'] else []) ++
        '\'' :: text.toList.flatMap escapeChar ++ ['\''] := by
    unfold stringLiteral
    by_cases h : '\\' ∈ text.toList.flatMap escapeChar <;> simp [h]
  constructor
  · rintro ⟨body, hbody, rfl⟩
    rw [hliteral, eq_flatMap_escapeChar hbody]
  · intro h
    exact ⟨_, unescape_flatMap_escapeChar _, by rw [h, hliteral]⟩

theorem yearText_eq_yearNumeral (year : Int) :
    Calendar.Timestamp.yearText year = yearNumeral year := by
  unfold Calendar.Timestamp.yearText yearNumeral
  rcases Int.lt_or_le year 0 with hneg | hpos
  · rw [if_neg (by omega), if_pos hneg, if_pos hneg]
    rfl
  rcases Int.lt_or_le 9999 year with hlong | hshort
  · rw [if_neg (by omega), if_neg (by omega), if_neg (by omega), if_neg (by omega)]
    rfl
  · have habs : year.toNat = year.natAbs := by omega
    rw [if_pos ⟨hpos, hshort⟩, if_neg (by omega), if_pos hshort, String.empty_append, habs]
    rfl

/-- Every instant has a date and a time of day. -/
theorem exists_dateTime (t : Calendar.Instant) :
    ∃ (date : Calendar.Date) (hour minute second : Nat),
      t.seconds = date.dayNumber * 86400 + hour * 3600 + minute * 60 + second ∧
      hour < 24 ∧ minute < 60 ∧ second < 60 := by
  obtain ⟨date, hday, -⟩ := t.exists_date
  obtain ⟨ofDay, hofDay⟩ : ∃ n : Nat, t.seconds % 86400 = n :=
    Int.eq_ofNat_of_zero_le (Int.emod_nonneg _ (by decide))
  unfold Calendar.secondsPerDay at hday
  exact ⟨date, ofDay / 3600, ofDay / 60 % 60, ofDay % 60, by omega, by omega, by omega, by omega⟩

/-- The literal of an instant has the fields of its date and time. -/
theorem literal_instant {t : Calendar.Instant} {date : Calendar.Date} {hour minute second : Nat}
    (hseconds : t.seconds = date.dayNumber * 86400 + hour * 3600 + minute * 60 + second)
    (hhour : hour < 24) (hminute : minute < 60) (hsecond : second < 60) :
    (Value.instant t).literal = "'" ++ yearNumeral date.year ++ "-" ++ numeral 2 date.month ++
      "-" ++ numeral 2 date.day ++ " " ++ numeral 2 hour ++ ":" ++ numeral 2 minute ++ ":" ++
      numeral 2 (second + t.nanos / 1000000000) ++ "." ++
      numeral 6 (t.nanos % 1000000000 / 1000) ++ " +00:00'" := by
  -- The day of an instant and the second in it are those of the fields, as these are in range.
  have hday : t.seconds / Calendar.secondsPerDay = date.dayNumber := by
    unfold Calendar.secondsPerDay
    omega
  have hofDay : (t.seconds % Calendar.secondsPerDay).toNat =
      hour * 3600 + minute * 60 + second := by
    unfold Calendar.secondsPerDay
    omega
  have hhour : (hour * 3600 + minute * 60 + second) / 3600 = hour := by omega
  have hminute : (hour * 3600 + minute * 60 + second) / 60 % 60 = minute := by omega
  have hsecond : (hour * 3600 + minute * 60 + second) % 60 = second := by omega
  simp only [Value.literal, Calendar.Instant.queryText, Calendar.Timestamp.dateText,
    Calendar.Timestamp.timeText, hday, hofDay, hhour, hminute, hsecond, Calendar.civil_dayNumber,
    yearText_eq_yearNumeral, String.append_assoc]
  rfl

/-- **Every value has one literal**, the one that is written. -/
theorem Value.isLiteral_iff (v : Value) (literal : String) :
    v.IsLiteral literal ↔ literal = v.literal := by
  cases v with
  | bigint n => rw [IsLiteral, Value.literal, toString_int]
  | ubigint n => rfl
  | int n => rw [IsLiteral, Value.literal, toString_int]
  | bool b => cases b <;> rfl
  | string text =>
    -- A body of which the escapes can be undone is the text with its escapes.
    rw [IsLiteral, Value.literal, toList_eq_stringLiteral_iff, ← String.toList_inj,
      String.toList_ofList]
  | instant t =>
    -- Any fields of the instant give its literal, and every instant has fields.
    constructor
    · rintro ⟨date, hour, minute, second, hseconds, hhour, hminute, hsecond, rfl⟩
      exact (literal_instant hseconds hhour hminute hsecond).symm
    · rintro rfl
      obtain ⟨date, hour, minute, second, hseconds, hhour, hminute, hsecond⟩ := exists_dateTime t
      exact ⟨date, hour, minute, second, hseconds, hhour, hminute, hsecond,
        literal_instant hseconds hhour hminute hsecond⟩

/-! ### Reading literals -/

/-- What comes after a string literal, once its first quote has been read. Two quotes in it stand
for one. If there are escapes, a backslash belongs to the character after it; those that go on with
hexadecimal digits are not read. -/
def afterQuoted? (escapes : Bool) : List Char → Option (List Char)
  | [] => none
  | c :: cs =>
    if c = '\'' then
      match cs with
      | '\'' :: cs => afterQuoted? escapes cs
      | cs => some cs
    else if escapes ∧ c = '\\' then
      match cs with
      | [] => none
      | c :: cs => if c ∈ ['x', 'u', 'U'] then none else afterQuoted? escapes cs
    else
      afterQuoted? escapes cs

/-- What comes after the string literal that a text starts with. -/
def afterLiteral? : List Char → Option (List Char)
  | '\'' :: cs => afterQuoted? false cs
  | 'E' :: '\'' :: cs => afterQuoted? true cs
  | _ => none

/-- The literal ends at a quote that no other one follows. -/
theorem afterQuoted?_quote (escapes : Bool) (hrest : rest.head? ≠ some '\'') :
    afterQuoted? escapes ('\'' :: rest) = some rest := by
  cases rest with
  | nil => rfl
  | cons c rest =>
    have hc : c ≠ '\'' := fun h => hrest (by simp [h])
    simp [afterQuoted?, hc]

theorem afterQuoted?_cons {escapes : Bool} (hc : ∀ e ∈ escapeTable, e.2 ≠ c) :
    afterQuoted? escapes (c :: cs) = afterQuoted? escapes cs := by
  have hbackslash : c ≠ '\\' := fun h => hc ('\\', '\\') (by decide) h.symm
  have hquote : c ≠ '\'' := fun h => hc ('\'', '\'') (by decide) h.symm
  rw [afterQuoted?.eq_def]
  simp [hquote, hbackslash]

theorem afterQuoted?_escape (h : (letter, c) ∈ escapeTable) :
    afterQuoted? true ('\\' :: letter :: cs) = afterQuoted? true cs := by
  have hletters : ∀ e ∈ escapeTable, e.1 ∉ ['x', 'u', 'U'] := by decide
  rw [afterQuoted?.eq_def]
  simp [hletters _ h]

theorem afterQuoted?_escaped (text : List Char) (hrest : rest.head? ≠ some '\'') :
    afterQuoted? true (text.flatMap escapeChar ++ '\'' :: rest) = some rest := by
  induction text with
  | nil => exact afterQuoted?_quote true hrest
  | cons c text ih =>
    rw [List.flatMap_cons, List.append_assoc]
    rcases escapeChar_cases c with ⟨hplain, hc⟩ | ⟨letter, hletter, hc⟩
    · rw [hc, List.singleton_append, afterQuoted?_cons hplain, ih]
    · rw [hc, List.cons_append, List.singleton_append, afterQuoted?_escape hletter, ih]

/-- Without escapes, no character of the text needed one. -/
theorem afterQuoted?_plain (text : List Char) (h : '\\' ∉ text.flatMap escapeChar)
    (hrest : rest.head? ≠ some '\'') :
    afterQuoted? false (text.flatMap escapeChar ++ '\'' :: rest) = some rest := by
  induction text with
  | nil => exact afterQuoted?_quote false hrest
  | cons c text ih =>
    rw [List.flatMap_cons, List.mem_append, not_or] at h
    rw [List.flatMap_cons, List.append_assoc]
    rcases escapeChar_cases c with ⟨hplain, hc⟩ | ⟨letter, -, hc⟩
    · rw [hc, List.singleton_append, afterQuoted?_cons hplain, ih h.2]
    · exact absurd (by simp [hc]) h.1

/-- The literal of a text is read as one whole, unless a quote follows. -/
theorem afterLiteral?_stringLiteral (text : String) (hrest : rest.head? ≠ some '\'') :
    afterLiteral? (stringLiteral text ++ rest) = some rest := by
  unfold stringLiteral
  by_cases h : '\\' ∈ text.toList.flatMap escapeChar
  · simpa [h, afterLiteral?] using afterQuoted?_escaped text.toList hrest
  · simpa [h, afterLiteral?] using afterQuoted?_plain text.toList h hrest

end TrackCriteria.Sql
