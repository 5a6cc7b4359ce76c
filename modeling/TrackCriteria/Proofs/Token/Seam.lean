import TrackCriteria.Proofs.Token.Scan

/-!
# Scanning texts that are joined

The tokens of two texts, one after the other, are those of the first text and then those of the
second, each where it stands in the whole (`scanFrom_append`). Two things can go wrong: a quote that
is never closed takes in all that follows, and the last token of the first text may go on with the
first character of the second, which is excluded by `IsSeam`.
-/

namespace TrackCriteria.Token

open Text (byteLength isWhiteSpace isValueChar isWordChar takeWhile_append_eq)

variable {c : Char} {cs rest : List Char}

/-- Whether no token goes on with the front of a text, but for a quote that is not closed yet. -/
def IsSeam (rest : List Char) : Prop :=
  ∀ c ∈ rest.head?, isWordChar c = false ∧ isValueChar c = false ∧ c ∉ ['=', '&', '|']

/-! ### The characters that a token takes -/

/-- A quote that no other one follows is never closed. -/
theorem quoted_of_notMem (h : '"' ∉ cs) : quoted cs = (.unterminatedString, cs) := by
  have htake : cs.takeWhile (· != '"') = cs := by
    rw [List.takeWhile_eq_self_iff]
    intro c hc
    exact bne_iff_ne.mpr fun heq => h (heq ▸ hc)
  simp only [quoted, htake, List.drop_length]
  rfl

/-- Either a quote is never closed, or the quoted text ends at the first quote. -/
theorem quoted_cases (cs : List Char) :
    quoted cs = (.unterminatedString, cs) ∨
      ∃ text more, '"' ∉ text ∧ cs = text ++ '"' :: more := by
  by_cases h : '"' ∈ cs
  · obtain ⟨text, more, rfl, htext⟩ := List.eq_append_cons_of_mem h
    exact .inr ⟨text, more, htext, rfl⟩
  · exact .inl (quoted_of_notMem h)

/-- A token takes characters from the front of what follows its first one. -/
theorem prefix_of_first (c : Char) (cs : List Char) : (first c cs).2 <+: cs := by
  have hfirst := goesOn_first c
  generalize first c = step at hfirst ⊢
  cases hfirst with
  | single => exact List.nil_prefix
  | @pair second double single =>
    unfold pair
    split
    · next h =>
      obtain ⟨cs, rfl⟩ := List.head?_eq_some_iff.mp h
      exact ⟨cs, rfl⟩
    · exact List.nil_prefix
  | quoted =>
    rcases quoted_cases cs with h | ⟨text, more, htext, rfl⟩
    · exact ⟨[], by rw [h, List.append_nil]⟩
    · rw [quoted_append htext]
      exact ⟨more, by rw [List.append_assoc, List.singleton_append]⟩
  | value => exact List.takeWhile_prefix _
  | word => exact List.takeWhile_prefix _
  | illegal => exact List.nil_prefix

/-! ### At the seam -/

/-- A token that is not an open quote is the same whatever comes after a seam. -/
theorem first_append (hclosed : (first c cs).1 ≠ .unterminatedString) (hrest : IsSeam rest) :
    first c (cs ++ rest) = first c cs := by
  have hfirst := goesOn_first c
  generalize first c = step at hclosed hfirst ⊢
  cases hfirst with
  | single => rfl
  | @pair second double single hmark =>
    cases cs with
    | cons c cs => rfl
    | nil =>
      have hseconds : ∀ e ∈ pairMarks, e.2.1 ∈ ['=', '&', '|'] := by decide
      -- There is no second character, and the one after the seam does not stand in for it.
      have hne : rest.head? ≠ some second := fun h => (hrest second h).2.2 (hseconds _ hmark)
      rw [List.nil_append, pair, if_neg hne]
      rfl
  | quoted =>
    -- The quote is closed in front of the seam.
    rcases quoted_cases cs with h | ⟨text, more, htext, rfl⟩
    · exact absurd (congrArg Prod.fst h) hclosed
    · rw [List.append_assoc, List.cons_append]
      exact (quoted_append htext _).trans (quoted_append htext _).symm
  | value =>
    dsimp only
    rw [takeWhile_append_eq fun c hc => (hrest c hc).2.1]
  | word =>
    dsimp only
    rw [takeWhile_append_eq fun c hc => (hrest c hc).1]
  | illegal => rfl

/-! ### Joined texts -/

/-- The tokens of joined texts. In the first of them, all quotes are closed. -/
theorem scanFrom_append {start taken : Nat} (htaken : taken ≤ cs.length)
    (hclosed : ∀ t ∈ scanFrom start taken cs, t.kind ≠ .unterminatedString) (hrest : IsSeam rest) :
    scanFrom start taken (cs ++ rest) =
      scanFrom start taken cs ++ scanFrom (start + byteLength cs) 0 rest := by
  induction cs generalizing start taken with
  | nil =>
    obtain rfl := Nat.le_zero.mp htaken
    rfl
  | cons c cs ih =>
    rw [byteLength, ← Nat.add_assoc]
    cases taken with
    | succ taken => exact ih (Nat.le_of_succ_le_succ htaken) hclosed
    | zero =>
      rw [scanFrom] at hclosed
      rw [List.cons_append, scanFrom, scanFrom]
      split
      · next h =>
        rw [if_pos h] at hclosed
        exact ih (Nat.zero_le _) hclosed
      · next h =>
        rw [if_neg h] at hclosed
        obtain ⟨hfirst, hclosed⟩ := List.forall_mem_cons.mp hclosed
        -- The token at the front is the same with the second text behind it.
        rw [first_append hfirst hrest, List.cons_append]
        exact congrArg _ (ih (prefix_of_first c cs).length_le hclosed)

/-- The kinds of the tokens of joined texts. -/
theorem kinds_append_of_isSeam (hclosed : .unterminatedString ∉ kinds cs) (hrest : IsSeam rest) :
    kinds (cs ++ rest) = kinds cs ++ kinds rest := by
  have hkind : ∀ t ∈ scanFrom 0 0 cs, t.kind ≠ .unterminatedString :=
    fun t ht heq => hclosed (List.mem_map.mpr ⟨t, ht, heq⟩)
  have happend := scanFrom_append (Nat.zero_le _) hkind hrest
  rw [kinds, happend, List.map_append, map_kind_scanFrom, map_kind_scanFrom, List.drop_zero,
    List.drop_zero]

end TrackCriteria.Token
