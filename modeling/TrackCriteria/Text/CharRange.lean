/-!
# Ranges of characters

A character class is given by a list of ranges of code points. Membership is decided by walking
the list, so that a class is plain data and every question about it is decidable.
-/

namespace TrackCriteria.Text

/-- The code points from the first number to the second, both included. -/
abbrev CharRange := Nat × Nat

/-- Whether some range of the list holds the character. -/
def inRanges (ranges : List CharRange) (c : Char) : Bool :=
  ranges.any fun r => r.1 ≤ c.toNat && c.toNat ≤ r.2

theorem inRanges_iff {ranges : List CharRange} {c : Char} :
    inRanges ranges c = true ↔ ∃ r ∈ ranges, r.1 ≤ c.toNat ∧ c.toNat ≤ r.2 := by
  simp [inRanges, List.any_eq_true]

end TrackCriteria.Text
