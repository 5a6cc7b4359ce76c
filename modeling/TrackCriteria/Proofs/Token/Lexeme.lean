import TrackCriteria.Proofs.Token.Spelling

/-!
# The characters of a token

How a token is spelled leaves open which characters words and dates are made of, and where they end.
Words and dates start with a character of their own class (`Kind.IsFormed`), and a token ends only
where it could not go on (`Kind.IsMaximal`). So a token stays what it is where the text behind it is
cut off (`first_of_isPrefix`), and also where it stands alone (`first_self`).
-/

namespace TrackCriteria.Token

open Text (isWhiteSpace isAsciiDigit isAlphabetic isValueChar isWordChar head?_drop_takeWhile
  takeWhile_of_isPrefix)

/-! ### Form and length -/

/-- The texts of operators and punctuation. -/
def operators : List (List Char) :=
  [['('], [')'], [':'], ['='], ['!'], ['<'], ['<', '='], ['>'], ['>', '='], ['&', '&'], ['|', '|']]

/-- Whether the text is a word: a letter, and then letters, numbers and underscores. -/
def IsWord (text : List Char) : Prop :=
  ∃ c more, text = c :: more ∧ isAlphabetic c = true ∧ ∀ c ∈ more, isWordChar c = true

/-- Whether a token of a kind may have the text, as far as this is a matter of character classes. An
illegal character is one that starts no other token. -/
def Kind.IsFormed (kind : Kind) (text : List Char) : Prop :=
  match kind with
  | .keyword _ => IsWord text
  | .identifier _ => IsWord text ∧ ∀ k : Keyword, text.map Char.toLower ≠ k.word.toList
  | .value _ =>
    ∃ c more, text = c :: more ∧ isAsciiDigit c = true ∧ ∀ c ∈ more, isValueChar c = true
  | .illegal c =>
    isWhiteSpace c = false ∧ isAsciiDigit c = false ∧ isAlphabetic c = false ∧ c ≠ '"' ∧
      [c] ∉ operators
  | _ => True

/-- Whether a token of a kind with the text cannot go on with what follows it. -/
def Kind.IsMaximal (kind : Kind) (text post : List Char) : Prop :=
  match kind with
  | .keyword _ => ∀ c ∈ post.head?, isWordChar c = false
  | .identifier _ => ∀ c ∈ post.head?, isWordChar c = false
  | .value _ => ∀ c ∈ post.head?, isValueChar c = false
  | .string _ => True
  | .unterminatedString => True
  | _ => ∀ c ∈ post.head?, text ++ [c] ∉ operators

/-! ### The text of a token -/

variable (c : Char) (cs : List Char)

theorem isFormed_wordKind {w : List Char} (h : IsWord w) : (wordKind w).IsFormed w := by
  unfold wordKind
  split
  · exact h
  · next hnone =>
    refine ⟨h, fun k hk => ?_⟩
    have hmem : k ∈ Keyword.all := by
      rcases k with _ | _ | _ | (_ | _ | _ | _) | (_ | _) <;> decide
    have hne := List.find?_eq_none.mp hnone k hmem
    exact hne (decide_eq_true hk.symm)

/-- Characters are marks, or they start words or dates, or they are illegal. -/
theorem isFormed_first (hspace : isWhiteSpace c = false) :
    (first c cs).1.IsFormed (c :: (first c cs).2) := by
  have hfirst := goesOn_first c
  generalize first c = step at hfirst ⊢
  cases hfirst with
  | single hmark =>
    have hformed : ∀ e ∈ singleMarks, ∀ text, e.2.IsFormed text := by
      simp [singleMarks, Kind.IsFormed]
    exact hformed _ hmark _
  | pair hmark =>
    -- `&` and `|` are illegal alone.
    have hformed : ∀ e ∈ pairMarks, ∀ text, e.2.2.1.IsFormed text ∧ e.2.2.2.IsFormed text := by
      simp only [pairMarks, List.forall_mem_cons]
      exact ⟨fun _ => ⟨trivial, trivial⟩, fun _ => ⟨trivial, trivial⟩,
        fun _ => ⟨trivial, by simp only [Kind.IsFormed]; decide⟩,
        fun _ => ⟨trivial, by simp only [Kind.IsFormed]; decide⟩, by simp⟩
    unfold pair
    split
    · exact (hformed _ hmark _).1
    · exact (hformed _ hmark _).2
  | quoted =>
    unfold quoted
    dsimp only
    split <;> exact trivial
  | value hdigit => exact ⟨c, _, rfl, hdigit, fun _ => List.mem_takeWhile_imp⟩
  | word hletter => exact isFormed_wordKind ⟨c, _, rfl, hletter, fun _ => List.mem_takeWhile_imp⟩
  | illegal hc hdigit hletter =>
    simp only [marks, List.mem_cons, List.not_mem_nil, or_false, not_or] at hc
    refine ⟨hspace, hdigit, hletter, hc.2.2.2.2.2.2.2.2.2, ?_⟩
    simp [operators, hc]

theorem isMaximal_wordKind {w post : List Char} (h : ∀ c ∈ post.head?, isWordChar c = false) :
    (wordKind w).IsMaximal w post := by
  unfold wordKind
  split <;> exact h

/-- A token of one or two characters ends after the first one only if the second does not follow. -/
theorem isMaximal_pair {second : Char} {double single : Kind}
    (hdouble : ∀ post, double.IsMaximal [c, second] post)
    (hsingle : ∀ post, (∀ d ∈ post.head?, d ≠ second) → single.IsMaximal [c] post) :
    (pair second double single cs).1.IsMaximal (c :: (pair second double single cs).2)
      (cs.drop (pair second double single cs).2.length) := by
  unfold pair
  split
  · exact hdouble _
  · next h =>
    refine hsingle _ ?_
    rintro d hd rfl
    exact h hd

/-- A token takes all characters that it can take. -/
theorem isMaximal_first :
    (first c cs).1.IsMaximal (c :: (first c cs).2) (cs.drop (first c cs).2.length) := by
  have hfirst := goesOn_first c
  generalize first c = step at hfirst ⊢
  cases hfirst with
  | single hmark =>
    -- A single mark starts no longer operator.
    have hmaximal : ∀ e ∈ singleMarks, ∀ post, e.2.IsMaximal [e.1] post := by
      simp [singleMarks, Kind.IsMaximal, operators]
    exact hmaximal _ hmark _
  | pair hmark =>
    -- No operator has three characters, and one of two has the second mark.
    have hdouble : ∀ e ∈ pairMarks, ∀ post, e.2.2.1.IsMaximal [e.1, e.2.1] post := by
      simp [pairMarks, Kind.IsMaximal, operators]
    have hsingle : ∀ e ∈ pairMarks, ∀ post, (∀ d ∈ post.head?, d ≠ e.2.1) →
        e.2.2.2.IsMaximal [e.1] post := by
      simp +contextual [pairMarks, Kind.IsMaximal, operators]
    exact isMaximal_pair _ _ (hdouble _ hmark) (hsingle _ hmark)
  | quoted =>
    unfold quoted
    dsimp only
    split <;> exact trivial
  | value => exact head?_drop_takeWhile _ _
  | word => exact isMaximal_wordKind (head?_drop_takeWhile _ _)
  | illegal hc =>
    intro next hnext
    simp only [marks, List.mem_cons, List.not_mem_nil, or_false, not_or] at hc
    simp [operators, hc]

/-- A token is the same in a text that is cut off behind it. -/
theorem first_of_isPrefix {ds : List Char} (htaken : (first c cs).2 <+: ds) (hds : ds <+: cs) :
    first c ds = first c cs := by
  have hfirst := goesOn_first c
  generalize first c = step at htaken hfirst ⊢
  cases hfirst with
  | single => rfl
  | pair =>
    obtain ⟨rest, hrest⟩ := hds
    cases ds with
    | cons d ds =>
      rw [← hrest]
      rfl
    | nil =>
      -- The second character is not the next one, or it would have been taken.
      unfold pair at htaken ⊢
      split at htaken
      · simp at htaken
      · next h => rw [if_neg h, if_neg (by simp)]
  | quoted =>
    rcases quoted_cases cs with h | ⟨text, more, htext, rfl⟩
    · rw [h] at htaken
      rw [hds.eq_of_length_le htaken.length_le]
    · rw [quoted_append htext] at htaken ⊢
      obtain ⟨more', rfl⟩ := htaken
      rw [List.append_assoc, List.singleton_append, quoted_append htext]
  | value =>
    dsimp only at htaken ⊢
    rw [takeWhile_of_isPrefix htaken hds]
  | word =>
    dsimp only at htaken ⊢
    rw [takeWhile_of_isPrefix htaken hds]
  | illegal => rfl

/-- The text of a token by itself is the same token. -/
theorem first_self : first c (first c cs).2 = first c cs :=
  first_of_isPrefix c cs (List.prefix_refl _) (prefix_of_first c cs)

end TrackCriteria.Token
