import TrackCriteria.Proofs.Text.Digits
import TrackCriteria.Proofs.Text.Run
import TrackCriteria.Token.Scan

/-!
# Scanning a text token by token

The kinds of the tokens of a text do not depend on where the text starts (`map_kind_scanFrom`), so
`kinds` can be followed from the front: white space is dropped, and the characters of a token are
replaced by its kind (`kinds_append`). For each sort of token there is a lemma that says what has to
come after its characters for the token to end there. What is true of all tokens is shown by the ways
in which one goes on after its first character (`goesOn_first`).
-/

namespace TrackCriteria.Token

open Text (byteLength isWhiteSpace isAsciiDigit isAlphabetic isValueChar isWordChar
  takeWhile_append_of_head)

variable {c : Char} {cs more rest : List Char} {kind : Kind}

/-! ### The kinds of the tokens of a text -/

/-- The kinds of the tokens of a text. -/
def kinds (cs : List Char) : List Kind :=
  (scanFrom 0 0 cs).map (·.kind)

theorem map_kind_scanFrom (start taken : Nat) (cs : List Char) :
    (scanFrom start taken cs).map (·.kind) = kinds (cs.drop taken) := by
  induction cs generalizing start taken with
  | nil =>
    rw [List.drop_nil]
    rfl
  | cons c cs ih =>
    cases taken with
    | succ taken => exact ih _ taken
    | zero =>
      -- Either side goes on after the same characters, only from another start.
      rw [List.drop_zero]
      unfold kinds
      rw [scanFrom, scanFrom]
      split
      · rw [ih, ih]
      · rw [List.map_cons, List.map_cons, ih, ih]

theorem kinds_nil : kinds [] = [] := rfl

theorem kinds_of_isWhiteSpace (h : isWhiteSpace c = true) : kinds (c :: cs) = kinds cs := by
  rw [kinds, scanFrom, if_pos h, map_kind_scanFrom, List.drop_zero]

theorem kinds_cons (h : isWhiteSpace c = false) :
    kinds (c :: cs) = (first c cs).1 :: kinds (cs.drop (first c cs).2.length) := by
  rw [kinds, scanFrom, if_neg (by rw [h]; exact Bool.false_ne_true), List.map_cons,
    map_kind_scanFrom]

/-- The characters of a token are replaced by its kind. -/
theorem kinds_append (h : isWhiteSpace c = false) (hfirst : first c (more ++ rest) = (kind, more)) :
    kinds (c :: (more ++ rest)) = kind :: kinds rest := by
  rw [kinds_cons h, hfirst, List.drop_left]

/-! ### Operators and punctuation -/

theorem kinds_leftParen (rest : List Char) : kinds ('(' :: rest) = .leftParen :: kinds rest :=
  kinds_cons (by decide)

theorem kinds_rightParen (rest : List Char) : kinds (')' :: rest) = .rightParen :: kinds rest :=
  kinds_cons (by decide)

theorem kinds_colon (rest : List Char) : kinds (':' :: rest) = .colon :: kinds rest :=
  kinds_cons (by decide)

theorem kinds_not (rest : List Char) : kinds ('!' :: rest) = .not :: kinds rest :=
  kinds_cons (by decide)

theorem kinds_and (rest : List Char) : kinds ('&' :: '&' :: rest) = .and :: kinds rest := by
  show kinds ('&' :: (['&'] ++ rest)) = _
  exact kinds_append (by decide) rfl

theorem kinds_or (rest : List Char) : kinds ('|' :: '|' :: rest) = .or :: kinds rest := by
  show kinds ('|' :: (['|'] ++ rest)) = _
  exact kinds_append (by decide) rfl

/-- `<` and `>` are operators of their own unless `=` follows. -/
theorem kinds_comparison (op : Comparison) (hrest : rest.head? ≠ some '=') :
    kinds (op.symbol.toList ++ rest) = .comparison op :: kinds rest := by
  -- With no `=` behind it, the operator has one character.
  have hpair : ∀ double single : Kind, pair '=' double single rest = (single, []) := by
    intro double single
    rw [pair, if_neg hrest]
  cases op with
  | eq => exact kinds_cons (by decide)
  | lt =>
    show kinds ('<' :: ([] ++ rest)) = _
    exact kinds_append (by decide) (hpair _ _)
  | le =>
    show kinds ('<' :: (['='] ++ rest)) = _
    exact kinds_append (by decide) rfl
  | gt =>
    show kinds ('>' :: ([] ++ rest)) = _
    exact kinds_append (by decide) (hpair _ _)
  | ge =>
    show kinds ('>' :: (['='] ++ rest)) = _
    exact kinds_append (by decide) rfl

/-! ### How tokens go on -/

/-- The characters of operators and punctuation, and the quote. -/
def marks : List Char := ['(', ')', ':', '=', '!', '<', '>', '&', '|', '"']

/-- The marks that are a token each, with the kinds of these tokens. -/
def singleMarks : List (Char × Kind) :=
  [('(', .leftParen), (')', .rightParen), (':', .colon), ('=', .comparison .eq), ('!', .not)]

/-- The marks that may have a second one after them, with the kind of both and of the first alone. -/
def pairMarks : List (Char × Char × Kind × Kind) :=
  [('<', '=', .comparison .le, .comparison .lt), ('>', '=', .comparison .ge, .comparison .gt),
    ('&', '&', .and, .illegal '&'), ('|', '|', .or, .illegal '|')]

/-- The ways in which a token goes on after its first character. -/
inductive GoesOn (c : Char) : (List Char → Kind × List Char) → Prop
  | single {kind : Kind} : (c, kind) ∈ singleMarks → GoesOn c fun _ => (kind, [])
  | pair {second : Char} {double single : Kind} :
    (c, second, double, single) ∈ pairMarks → GoesOn c (pair second double single)
  | quoted : c = '"' → GoesOn c quoted
  | value : isAsciiDigit c = true → GoesOn c fun cs =>
    (.value (String.ofList (c :: cs.takeWhile isValueChar)), cs.takeWhile isValueChar)
  | word : isAlphabetic c = true → GoesOn c fun cs =>
    (wordKind (c :: cs.takeWhile isWordChar), cs.takeWhile isWordChar)
  | illegal : c ∉ marks → isAsciiDigit c = false → isAlphabetic c = false →
    GoesOn c fun _ => (.illegal c, [])

/-- A character that is no mark starts a value or a word, or nothing. -/
theorem first_of_notMem_marks (h : c ∉ marks) (cs : List Char) :
    first c cs =
      if isAsciiDigit c then
        (.value (String.ofList (c :: cs.takeWhile isValueChar)), cs.takeWhile isValueChar)
      else if isAlphabetic c then
        (wordKind (c :: cs.takeWhile isWordChar), cs.takeWhile isWordChar)
      else (.illegal c, []) := by
  simp only [marks, List.mem_cons, List.not_mem_nil, or_false, not_or] at h
  simp only [first, h, if_false]

/-- How a token goes on depends on its first character. -/
theorem goesOn_first (c : Char) : GoesOn c (first c) := by
  by_cases hc : c ∈ marks
  · simp only [marks, List.mem_cons, List.not_mem_nil, or_false] at hc
    rcases hc with rfl | rfl | rfl | rfl | rfl | rfl | rfl | rfl | rfl | rfl
    · exact @GoesOn.single _ .leftParen (by decide)
    · exact @GoesOn.single _ .rightParen (by decide)
    · exact @GoesOn.single _ .colon (by decide)
    · exact @GoesOn.single _ (.comparison .eq) (by decide)
    · exact @GoesOn.single _ .not (by decide)
    · exact @GoesOn.pair _ '=' (.comparison .le) (.comparison .lt) (by decide)
    · exact @GoesOn.pair _ '=' (.comparison .ge) (.comparison .gt) (by decide)
    · exact @GoesOn.pair _ '&' .and (.illegal '&') (by decide)
    · exact @GoesOn.pair _ '|' .or (.illegal '|') (by decide)
    · exact .quoted rfl
  · rw [funext (first_of_notMem_marks hc)]
    by_cases hdigit : isAsciiDigit c = true
    · simpa only [hdigit, if_true] using .value hdigit
    by_cases hletter : isAlphabetic c = true
    · simpa only [hdigit, hletter, if_true, if_false] using .word hletter
    · simpa only [hdigit, hletter, if_false] using
        .illegal hc (Bool.eq_false_iff.mpr hdigit) (Bool.eq_false_iff.mpr hletter)

/-! ### Words, values and quoted texts -/

theorem notMem_marks {p : Char → Bool} (hmarks : marks.all (!p ·) = true) (h : p c = true) :
    c ∉ marks := by
  intro hc
  have hp := List.all_eq_true.mp hmarks c hc
  rw [h] at hp
  cases hp

/-- A letter starts a word. -/
theorem first_of_isAlphabetic (hc : isAlphabetic c = true) (cs : List Char) :
    first c cs = (wordKind (c :: cs.takeWhile isWordChar), cs.takeWhile isWordChar) := by
  have hmark : c ∉ marks := notMem_marks (by decide) hc
  have hdigit : ¬isAsciiDigit c = true := by
    intro h
    rw [Text.isAlphabetic_of_isAsciiDigit h] at hc
    cases hc
  rw [first_of_notMem_marks hmark, if_neg hdigit, if_pos hc]

/-- A date or duration ends in front of a character that it cannot go on with. -/
theorem kinds_value (hc : isAsciiDigit c = true) (hmore : ∀ c ∈ more, isValueChar c = true)
    (hrest : ∀ c ∈ rest.head?, isValueChar c = false) :
    kinds (c :: (more ++ rest)) = .value (String.ofList (c :: more)) :: kinds rest := by
  have hmark : c ∉ marks := notMem_marks (by decide) hc
  refine kinds_append (Text.isWhiteSpace_of_isAsciiDigit hc) ?_
  rw [first_of_notMem_marks hmark, if_pos hc, takeWhile_append_of_head hmore hrest]

/-- A word ends in front of a character that it cannot go on with. -/
theorem kinds_word (hc : isAlphabetic c = true) (hmore : ∀ c ∈ more, isWordChar c = true)
    (hrest : ∀ c ∈ rest.head?, isWordChar c = false) :
    kinds (c :: (more ++ rest)) = wordKind (c :: more) :: kinds rest := by
  -- White space is in no word, not even at its start.
  have hspace : isWhiteSpace c = false := by
    rw [Bool.eq_false_iff]
    intro h
    have hword := Text.not_isWordChar_of_isWhiteSpace h
    rw [isWordChar, hc] at hword
    cases hword
  refine kinds_append hspace ?_
  rw [first_of_isAlphabetic hc, takeWhile_append_of_head hmore hrest]

theorem wordKind_keyword (k : Keyword) : wordKind k.word.toList = .keyword k := by
  rcases k with _ | _ | _ | (_ | _ | _ | _) | (_ | _) <;> decide

/-- A keyword in lower case. -/
theorem kinds_keyword (k : Keyword) (hrest : ∀ c ∈ rest.head?, isWordChar c = false) :
    kinds (k.word.toList ++ rest) = .keyword k :: kinds rest := by
  obtain ⟨c, more, hword, hc, hmore⟩ : ∃ c more, k.word.toList = c :: more ∧
      isAlphabetic c = true ∧ more.all isWordChar = true := by
    rcases k with _ | _ | _ | (_ | _ | _ | _) | (_ | _) <;>
      exact ⟨_, _, rfl, by decide, by decide⟩
  rw [← wordKind_keyword k, hword, List.cons_append]
  exact kinds_word hc (List.all_eq_true.mp hmore) hrest

/-- A quoted text ends at the next quote. -/
theorem quoted_append {text : List Char} (htext : '"' ∉ text) (rest : List Char) :
    quoted (text ++ '"' :: rest) = (.string (String.ofList text), text ++ ['"']) := by
  have htake : (text ++ '"' :: rest).takeWhile (· != '"') = text := by
    refine takeWhile_append_of_head ?_ ?_
    · intro c hc
      exact bne_iff_ne.mpr fun h => htext (h ▸ hc)
    · rintro c ⟨⟩
      rfl
  simp only [quoted, htake, List.drop_left]
  rfl

theorem kinds_string {text : List Char} (htext : '"' ∉ text) (rest : List Char) :
    kinds ('"' :: (text ++ '"' :: rest)) = .string (String.ofList text) :: kinds rest := by
  have hquoted := quoted_append htext rest
  have happ : text ++ '"' :: rest = (text ++ ['"']) ++ rest := by
    rw [List.append_assoc, List.singleton_append]
  rw [happ] at hquoted ⊢
  exact kinds_append (by decide) hquoted

/-! ### What a scan finds -/

/-- Every token is the first one of what is left of the text where it starts. -/
theorem exists_first_of_mem_scanFrom {t : Token} {start taken : Nat}
    (h : t ∈ scanFrom start taken cs) :
    ∃ pre c more, cs = pre ++ c :: more ∧ t.kind = (first c more).1 ∧
      t.span = ⟨start + byteLength pre,
        start + byteLength pre + byteLength (c :: (first c more).2)⟩ := by
  induction cs generalizing start taken with
  | nil => cases h
  | cons c cs ih =>
    -- A token that comes later stands one character further on.
    have hlater : ∀ {taken : Nat}, t ∈ scanFrom (start + c.utf8Size) taken cs →
        ∃ pre c' more, c :: cs = pre ++ c' :: more ∧ t.kind = (first c' more).1 ∧
          t.span = ⟨start + byteLength pre,
            start + byteLength pre + byteLength (c' :: (first c' more).2)⟩ := by
      intro taken h
      obtain ⟨pre, c', more, rfl, hkind, hspan⟩ := ih h
      refine ⟨c :: pre, c', more, rfl, hkind, ?_⟩
      simp only [hspan, byteLength, Nat.add_assoc]
    cases taken with
    | succ taken => exact hlater h
    | zero =>
      rw [scanFrom] at h
      split at h
      · exact hlater h
      · rcases List.mem_cons.mp h with rfl | h
        · exact ⟨[], c, cs, rfl, rfl, rfl⟩
        · exact hlater h

theorem wordKind_ne_string (w : List Char) (text : String) : wordKind w ≠ .string text := by
  unfold wordKind
  split <;> rintro ⟨⟩

theorem pair_ne_string {second : Char} {double single : Kind} {text : String}
    (hdouble : double ≠ .string text) (hsingle : single ≠ .string text) (cs : List Char) :
    (pair second double single cs).1 ≠ .string text := by
  unfold pair
  split
  · exact hdouble
  · exact hsingle

/-- There is no quote inside of a quoted text. -/
theorem notMem_of_quoted_eq_string {text : String} (h : (quoted cs).1 = .string text) :
    '"' ∉ text.toList := by
  simp only [quoted] at h
  split at h
  · cases h
  · cases h
    rw [String.toList_ofList]
    intro hmem
    cases List.mem_takeWhile_imp hmem

/-- Only a quote starts a quoted text. -/
theorem first_eq_string {text : String} (h : (first c cs).1 = .string text) :
    c = '"' ∧ (quoted cs).1 = .string text := by
  have hfirst := goesOn_first c
  generalize first c = step at h hfirst
  cases hfirst with
  | quoted hquote => exact ⟨hquote, h⟩
  | single hmark =>
    have hne : ∀ e ∈ singleMarks, e.2 ≠ .string text := by simp [singleMarks]
    exact absurd h (hne _ hmark)
  | pair hmark =>
    have hne : ∀ e ∈ pairMarks, e.2.2.1 ≠ .string text ∧ e.2.2.2 ≠ .string text := by
      simp [pairMarks]
    exact absurd h (pair_ne_string (hne _ hmark).1 (hne _ hmark).2 cs)
  | value => cases h
  | word => exact absurd h (wordKind_ne_string _ _)
  | illegal => cases h

theorem notMem_of_string_mem_kinds {text : String} (h : .string text ∈ kinds cs) :
    '"' ∉ text.toList := by
  obtain ⟨t, ht, hkind⟩ := List.mem_map.mp h
  obtain ⟨-, c, more, -, hfirst, -⟩ := exists_first_of_mem_scanFrom ht
  exact notMem_of_quoted_eq_string (first_eq_string (hfirst.symm.trans hkind)).2

end TrackCriteria.Token
