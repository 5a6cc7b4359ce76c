import TrackCriteria.Proofs.Token.Scan

/-!
# Where tokens stand

The tokens of a scan start one after the other (`pairwise_scanFrom`), so the span of a token is that
of no other one.
-/

namespace TrackCriteria.Token

variable {cs : List Char} {t : Token}

/-- No token starts before the text does. -/
theorem le_start_of_mem_scanFrom {start taken : Nat} (h : t ∈ scanFrom start taken cs) :
    start ≤ t.span.start := by
  induction cs generalizing start taken with
  | nil => cases h
  | cons c cs ih =>
    cases taken with
    | succ taken =>
      have hle := ih h
      omega
    | zero =>
      rw [scanFrom] at h
      split at h
      · have hle := ih h
        omega
      · -- It is the token that starts here, or a later one.
        rcases List.mem_cons.mp h with rfl | h
        · exact Nat.le_refl _
        · have hle := ih h
          omega

/-- Every token starts after those before it. -/
theorem pairwise_scanFrom (start taken : Nat) (cs : List Char) :
    (scanFrom start taken cs).Pairwise fun t u => t.span.start < u.span.start := by
  induction cs generalizing start taken with
  | nil => exact List.Pairwise.nil
  | cons c cs ih =>
    cases taken with
    | succ taken => exact ih _ _
    | zero =>
      rw [scanFrom]
      split
      · exact ih _ _
      · refine List.pairwise_cons.mpr ⟨fun t ht => ?_, ih _ _⟩
        -- The next token starts after the first character of this one at the earliest.
        have hle := le_start_of_mem_scanFrom ht
        have hpos := c.utf8Size_pos
        show start < t.span.start
        omega

/-- The span of a token of a source is that of no other token. -/
theorem span_ne_of_scan {source : String} {pre post : List Token}
    (h : scan source = pre ++ t :: post) : ∀ u ∈ pre ++ post, u.span ≠ t.span := by
  have hpairwise := pairwise_scanFrom 0 0 source.toList
  rw [show scanFrom 0 0 source.toList = pre ++ t :: post from h, List.pairwise_append,
    List.pairwise_cons] at hpairwise
  obtain ⟨-, ⟨hpost, -⟩, hpre⟩ := hpairwise
  intro u hu heq
  -- A token in front has started before, and one behind starts after.
  rcases List.mem_append.mp hu with hu | hu
  · have hlt := hpre u hu t List.mem_cons_self
    rw [heq] at hlt
    exact Nat.lt_irrefl _ hlt
  · have hlt := hpost u hu
    rw [heq] at hlt
    exact Nat.lt_irrefl _ hlt

end TrackCriteria.Token
