import TrackCriteria.Proofs.Text.LetterCase
import TrackCriteria.Proofs.Token.Scan

/-!
# Scanning without regard to case

Neither the class of a character nor the keyword that a word spells depends on the case of ASCII
letters. So a source in lower case has its tokens at the same places, with the texts of words,
literals and quoted texts in lower case (`scan_toLower`).
-/

namespace TrackCriteria

/-- A kind of tokens with its text in lower case. -/
def Token.Kind.toLower : Token.Kind → Token.Kind
  | .identifier word => .identifier word.toLower
  | .string text => .string text.toLower
  | .value literal => .value literal.toLower
  | kind => kind

/-- A token with its text in lower case. -/
def Token.toLower (t : Token) : Token :=
  ⟨t.kind.toLower, t.span⟩

namespace Token

open Text

theorem ofWord?_map_toLower (w : List Char) :
    Keyword.ofWord? (w.map Char.toLower) = Keyword.ofWord? w := by
  have hidem : (w.map Char.toLower).map Char.toLower = w.map Char.toLower := by
    rw [List.map_map]
    exact List.map_congr_left fun c _ => toLower_toLower c
  rw [Keyword.ofWord?, hidem]
  rfl

theorem wordKind_map_toLower (w : List Char) :
    wordKind (w.map Char.toLower) = (wordKind w).toLower := by
  unfold wordKind
  rw [ofWord?_map_toLower]
  cases Keyword.ofWord? w with
  | some k => rfl
  | none => exact congrArg Kind.identifier (ofList_map_toLower w)

theorem pair_map_toLower {second : Char} {double single : Kind}
    (hsecond : isAlphabetic second = false) (hdouble : double.toLower = double)
    (hsingle : single.toLower = single) (cs : List Char) :
    pair second double single (cs.map Char.toLower) =
      ((pair second double single cs).1.toLower,
        (pair second double single cs).2.map Char.toLower) := by
  have hhead : (cs.map Char.toLower).head? = some second ↔ cs.head? = some second := by
    cases cs with
    | nil => rfl
    | cons c cs => simp [toLower_eq_iff_of_not_isAlphabetic hsecond]
  unfold pair
  by_cases h : cs.head? = some second
  · rw [if_pos h, if_pos (hhead.mpr h), hdouble]
    simp [toLower_of_not_isAlphabetic hsecond]
  · rw [if_neg h, if_neg (mt hhead.mp h), hsingle]
    rfl

theorem quoted_map_toLower (cs : List Char) :
    quoted (cs.map Char.toLower) = ((quoted cs).1.toLower, (quoted cs).2.map Char.toLower) := by
  -- The string ends at the same place, since nothing else becomes a quote and a quote stays one.
  have hquote : ∀ c : Char, (c.toLower != '"') = (c != '"') := by
    intro c
    simp [bne, toLower_eq_iff_of_not_isAlphabetic (c := c) (d := '"') (by decide)]
  unfold quoted
  rw [takeWhile_map_toLower hquote]
  dsimp only
  rw [List.length_map, ← List.map_drop, List.isEmpty_map]
  split
  · rfl
  · rw [ofList_map_toLower, List.map_append]
    rfl

/-- The token at the front of a text in lower case is the one of the text, in lower case. -/
theorem first_map_toLower (c : Char) (cs : List Char) :
    first c.toLower (cs.map Char.toLower) =
      ((first c cs).1.toLower, (first c cs).2.map Char.toLower) := by
  by_cases hletter : isAlphabetic c = true
  · -- The lower case of a letter is one, too, and starts the same word in lower case.
    have hletter' : isAlphabetic c.toLower = true := by rwa [isAlphabetic_toLower]
    rw [first_of_isAlphabetic hletter, first_of_isAlphabetic hletter',
      takeWhile_map_toLower isWordChar_toLower, ← List.map_cons, wordKind_map_toLower]
  rw [toLower_of_not_isAlphabetic (Bool.eq_false_iff.mpr hletter)]
  have hfirst := goesOn_first c
  generalize first c = step at hfirst ⊢
  cases hfirst with
  | single hmark =>
    have hsame : ∀ e ∈ singleMarks, e.2.toLower = e.2 := by decide
    exact congrArg (·, []) (hsame _ hmark).symm
  | pair hmark =>
    have hsame : ∀ e ∈ pairMarks, isAlphabetic e.2.1 = false ∧ e.2.2.1.toLower = e.2.2.1 ∧
        e.2.2.2.toLower = e.2.2.2 := by decide
    obtain ⟨hsecond, hdouble, hsingle⟩ := hsame _ hmark
    exact pair_map_toLower hsecond hdouble hsingle cs
  | quoted => exact quoted_map_toLower cs
  | value =>
    dsimp only
    rw [takeWhile_map_toLower isValueChar_toLower]
    have hc : c.toLower = c := toLower_of_not_isAlphabetic (Bool.eq_false_iff.mpr hletter)
    refine Prod.ext ?_ rfl
    rw [Kind.toLower, ← ofList_map_toLower, List.map_cons, hc]
  | word h => exact absurd h hletter
  | illegal => rfl

theorem scanFrom_map_toLower (start taken : Nat) (cs : List Char) :
    scanFrom start taken (cs.map Char.toLower) = (scanFrom start taken cs).map toLower := by
  induction cs generalizing start taken with
  | nil => rfl
  | cons c cs ih =>
    rw [List.map_cons]
    cases taken with
    | succ taken =>
      rw [scanFrom, scanFrom, utf8Size_toLower]
      exact ih _ _
    | zero =>
      rw [scanFrom, scanFrom, isWhiteSpace_toLower, utf8Size_toLower, first_map_toLower]
      split
      · exact ih _ _
      · dsimp only
        rw [List.map_cons, List.length_map, ih, ← List.map_cons, byteLength_map_toLower]
        rfl

/-- A source in lower case has the tokens of the source in lower case. -/
theorem scan_toLower (source : String) : scan source.toLower = (scan source).map toLower := by
  rw [scan, scan, toList_toLower]
  exact scanFrom_map_toLower 0 0 source.toList

end Token

end TrackCriteria
