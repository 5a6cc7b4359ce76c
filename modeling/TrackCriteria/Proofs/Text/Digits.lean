import TrackCriteria.Proofs.Text.Run
import TrackCriteria.Text.Decimal
import Mathlib.Algebra.Order.Ring.Nat
import Mathlib.Tactic.Common

/-!
# Runs of digits

A property of all digits can be checked digit by digit (`of_isAsciiDigit`). A number that is written
with a width consists of digits, has at least that many of them and denotes itself; and a run of
`n` digits denotes a number below `10ⁿ` (`value_lt`). Digits at the front of a text are taken up to
a given number of them, or up to the first character that is none (`takeDigits_append`).
-/

namespace TrackCriteria.Text

variable {c : Char}

/-! ### Digits -/

/-- A property that each of the ten digits has is one of all digits. -/
theorem of_isAsciiDigit {p : Char → Prop} (hp : ∀ n < 10, p (Char.ofNat (48 + n)))
    (h : isAsciiDigit c = true) : p c := by
  have hrange : 48 ≤ c.toNat ∧ c.toNat ≤ 57 := by
    rwa [isAsciiDigit, Bool.and_eq_true, decide_eq_true_iff, decide_eq_true_iff] at h
  have hc := hp (c.toNat - 48) (by omega)
  rwa [Nat.add_sub_cancel' hrange.1, Char.ofNat_toNat] at hc

theorem isValueChar_of_isAsciiDigit (h : isAsciiDigit c = true) : isValueChar c = true := by
  rw [isValueChar, h, Bool.or_true, Bool.true_or]

theorem isWhiteSpace_of_isAsciiDigit (h : isAsciiDigit c = true) : isWhiteSpace c = false :=
  of_isAsciiDigit (p := fun c => isWhiteSpace c = false) (by decide) h

theorem isAlphabetic_of_isAsciiDigit (h : isAsciiDigit c = true) : isAlphabetic c = false :=
  of_isAsciiDigit (p := fun c => isAlphabetic c = false) (by decide) h

namespace Decimal

/-! ### The number that digits denote -/

theorem value_cons (c : Char) (cs : List Char) :
    value (c :: cs) = 10 ^ cs.length * (c.toNat - 48) + value cs := by
  rw [value, Nat.ofDigitChars_cons, Nat.ofDigitChars_eq_ofDigitChars_zero, Nat.mul_zero,
    Nat.zero_add]
  rfl

theorem value_lt {cs : List Char} (h : ∀ c ∈ cs, isAsciiDigit c = true) :
    value cs < 10 ^ cs.length := by
  induction cs with
  | nil => decide
  | cons c cs ih =>
    have hdigit : c.toNat - 48 ≤ 9 :=
      of_isAsciiDigit (p := fun c => c.toNat - 48 ≤ 9) (by decide) (h c List.mem_cons_self)
    have hrest := ih fun c hc => h c (List.mem_cons_of_mem _ hc)
    -- The first digit counts the power at most 9 times, and the others are less than the power.
    calc value (c :: cs) = 10 ^ cs.length * (c.toNat - 48) + value cs := value_cons c cs
      _ < 10 ^ cs.length * (c.toNat - 48) + 10 ^ cs.length := Nat.add_lt_add_left hrest _
      _ = 10 ^ cs.length * (c.toNat - 48 + 1) := (Nat.mul_succ _ _).symm
      _ ≤ 10 ^ cs.length * 10 := Nat.mul_le_mul_left _ (by omega)
      _ = 10 ^ (c :: cs).length := by rw [List.length_cons, Nat.pow_succ]

theorem value_append_zeros (cs : List Char) (n : Nat) :
    value (cs ++ List.replicate n '0') = value cs * 10 ^ n := by
  rw [value, Nat.ofDigitChars_append, Nat.ofDigitChars_replicate_zero, Nat.mul_comm]
  rfl

/-! ### Numbers with a width -/

theorem isAsciiDigit_of_mem_paddedDigits {width n : Nat} (h : c ∈ paddedDigits width n) :
    isAsciiDigit c = true := by
  -- A digit is one of the zeros at the front or one of the number.
  rcases List.mem_append.mp h with h | h
  · rw [List.eq_of_mem_replicate h]
    decide
  · have hdigit : c.isDigit = true := Nat.isDigit_of_mem_toDigits (by decide) (by decide) h
    exact hdigit

theorem value_paddedDigits (width n : Nat) : value (paddedDigits width n) = n := by
  rw [value, paddedDigits, Nat.ofDigitChars_append, Nat.ofDigitChars_replicate_zero, Nat.mul_zero,
    Nat.ofDigitChars_ten_toDigits]

theorem length_paddedDigits (width n : Nat) :
    (paddedDigits width n).length = max width (Nat.toDigits 10 n).length := by
  rw [paddedDigits, List.length_append, List.length_replicate]
  omega

theorem le_length_paddedDigits (width n : Nat) : width ≤ (paddedDigits width n).length := by
  rw [length_paddedDigits]
  exact Nat.le_max_left _ _

theorem length_paddedDigits_le {width n k : Nat} (hk : 0 < k) (hwidth : width ≤ k)
    (hn : n < 10 ^ k) : (paddedDigits width n).length ≤ k := by
  rw [length_paddedDigits]
  exact Nat.max_le.mpr ⟨hwidth, (Nat.length_toDigits_le_iff (by decide) hk).mpr hn⟩

theorem length_paddedDigits_eq {width n : Nat} (hwidth : 0 < width) (hn : n < 10 ^ width) :
    (paddedDigits width n).length = width :=
  Nat.le_antisymm (length_paddedDigits_le hwidth (Nat.le_refl _) hn) (le_length_paddedDigits _ _)

theorem isValueChar_of_mem_paddedDigits {width n : Nat} (h : c ∈ paddedDigits width n) :
    isValueChar c = true :=
  isValueChar_of_isAsciiDigit (isAsciiDigit_of_mem_paddedDigits h)

/-- A number with a width starts with a digit, whatever comes after it. -/
theorem exists_paddedDigits_append_eq_cons {width : Nat} (hwidth : 0 < width) (n : Nat)
    (tail : List Char) : ∃ c cs, paddedDigits width n ++ tail = c :: (cs ++ tail) ∧
      isAsciiDigit c = true ∧ ∀ c ∈ cs, isValueChar c = true := by
  have hlength := Nat.lt_of_lt_of_le hwidth (le_length_paddedDigits width n)
  obtain ⟨c, cs, hcs⟩ := List.exists_cons_of_length_pos hlength
  have hall : ∀ c' ∈ c :: cs, isAsciiDigit c' = true := by
    rw [← hcs]
    exact fun _ => isAsciiDigit_of_mem_paddedDigits
  obtain ⟨hc, hcs'⟩ := List.forall_mem_cons.mp hall
  refine ⟨c, cs, ?_, hc, fun c' hc' => isValueChar_of_isAsciiDigit (hcs' c' hc')⟩
  rw [hcs, List.cons_append]

/-- There is no white space in front of a number with a width. -/
theorem skipWhiteSpace_paddedDigits {width : Nat} (hwidth : 0 < width) (n : Nat)
    (tail : List Char) :
    skipWhiteSpace (paddedDigits width n ++ tail) = paddedDigits width n ++ tail := by
  obtain ⟨c, cs, hcons, hc, -⟩ := exists_paddedDigits_append_eq_cons hwidth n tail
  have hspace : ¬isWhiteSpace c = true := by
    rw [isWhiteSpace_of_isAsciiDigit hc]
    exact Bool.false_ne_true
  rw [hcons, skipWhiteSpace, List.dropWhile_cons_of_neg hspace]

/-! ### Digits at the front of a text -/

/-- The digits end where no more of them may be taken, or in front of another character. -/
theorem takeDigits_append {min max : Nat} {digits rest : List Char}
    (hdigits : ∀ c ∈ digits, isAsciiDigit c = true) (hmin : min ≤ digits.length)
    (hmax : digits.length ≤ max)
    (hend : digits.length = max ∨ ∀ c ∈ rest.head?, isAsciiDigit c = false) :
    takeDigits min max (digits ++ rest) = some (digits, rest) := by
  have htake : ((digits ++ rest).takeWhile isAsciiDigit).take max = digits := by
    rcases hend with hlength | hrest
    · rw [List.takeWhile_append_of_pos hdigits, ← hlength, List.take_left]
    · rw [takeWhile_append_of_head hdigits hrest, List.take_of_length_le hmax]
  simp only [takeDigits, htake]
  rw [if_neg (Nat.not_lt.mpr hmin), List.drop_left]

end Decimal

end TrackCriteria.Text
