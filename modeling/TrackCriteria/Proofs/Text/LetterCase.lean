import TrackCriteria.Text.Bytes
import TrackCriteria.Text.CharClass
import Mathlib.Tactic.Common

/-!
# Letters of either case

Only ASCII letters have another case here (`toLower_eq_iff`), so what is to be shown of a character
and its lower case is to be shown of the 26 capital letters (`of_toLower`). None of the classes that
sources are read by tells the cases apart.
-/

namespace TrackCriteria.Text

/-! ### Capital letters and small ones -/

/-- Capital letters come 32 places before small ones, and no other character has a small one. -/
theorem toLower_eq_iff {c x : Char} (hx : 97 ≤ x.toNat ∧ x.toNat ≤ 122) :
    c.toLower = x ↔ c = x ∨ c.toNat + 32 = x.toNat := by
  have hcapital : c.val ≥ 'A'.val ∧ c.val ≤ 'Z'.val ↔ 65 ≤ c.toNat ∧ c.toNat ≤ 90 := by
    simp [UInt32.le_iff_toNat_le]
  unfold Char.toLower
  rw [← Char.toNat_inj, ← Char.toNat_inj]
  split
  · next h =>
    have hc := hcapital.mp h
    -- The sum is far from the end of the 32 bits, so nothing wraps around.
    have hval : (c.val + ('a'.val - 'A'.val)).toNat = c.toNat + 32 := by
      rw [UInt32.toNat_add]
      show (c.toNat + 32) % 2 ^ 32 = c.toNat + 32
      omega
    show (c.val + ('a'.val - 'A'.val)).toNat = x.toNat ↔ _
    omega
  · next h =>
    have hc := mt hcapital.mpr h
    omega

/-- Lower case is the same character, or the small letter for one of the 26 capital ones. -/
theorem of_toLower {p : Char → Char → Prop} (hsame : ∀ c, p c c)
    (hcapital : ∀ n < 26, p (Char.ofNat (65 + n)) (Char.ofNat (97 + n))) (c : Char) :
    p c c.toLower := by
  by_cases h : 65 ≤ c.toNat ∧ c.toNat ≤ 90
  · -- A capital letter is told by its place in the alphabet.
    have hc := hcapital (c.toNat - 65) (by omega)
    have hnat : 65 + (c.toNat - 65) = c.toNat := by omega
    rw [hnat, Char.ofNat_toNat] at hc
    have hsmall : (Char.ofNat (97 + (c.toNat - 65))).toNat = c.toNat + 32 := by
      unfold Char.ofNat
      rw [dif_pos (.inl (by omega))]
      show 97 + (c.toNat - 65) = c.toNat + 32
      omega
    have hlower : c.toLower = Char.ofNat (97 + (c.toNat - 65)) :=
      (toLower_eq_iff (by omega)).mpr (.inr hsmall.symm)
    rwa [hlower]
  · have hlower : c.toLower = c := by
      refine dif_neg ?_
      simpa [UInt32.le_iff_toNat_le] using h
    rw [hlower]
    exact hsame c

/-- What does not tell the 26 capital letters from the small ones does not tell cases apart. -/
theorem apply_toLower {α : Type} {f : Char → α}
    (hcapital : ∀ n < 26, f (Char.ofNat (97 + n)) = f (Char.ofNat (65 + n))) (c : Char) :
    f c.toLower = f c :=
  of_toLower (p := fun c d => f d = f c) (fun _ => rfl) hcapital c

theorem toLower_toLower (c : Char) : c.toLower.toLower = c.toLower :=
  apply_toLower (by decide) c

/-! ### Classes of characters -/

theorem isWhiteSpace_toLower (c : Char) : isWhiteSpace c.toLower = isWhiteSpace c :=
  apply_toLower (by decide) c

theorem isAsciiDigit_toLower (c : Char) : isAsciiDigit c.toLower = isAsciiDigit c :=
  apply_toLower (by decide) c

theorem isAlphabetic_toLower (c : Char) : isAlphabetic c.toLower = isAlphabetic c :=
  apply_toLower (by decide) c

theorem isWordChar_toLower (c : Char) : isWordChar c.toLower = isWordChar c :=
  apply_toLower (by decide) c

theorem isValueChar_toLower (c : Char) : isValueChar c.toLower = isValueChar c :=
  apply_toLower (by decide) c

theorem utf8Size_toLower (c : Char) : c.toLower.utf8Size = c.utf8Size :=
  apply_toLower (by decide) c

/-- Only letters have another case. -/
theorem toLower_of_not_isAlphabetic {c : Char} (h : isAlphabetic c = false) : c.toLower = c :=
  of_toLower (p := fun c d => isAlphabetic c = false → d = c) (fun _ _ => rfl) (by decide) c h

/-- No letter becomes a character that is none. -/
theorem toLower_eq_iff_of_not_isAlphabetic {c d : Char} (hd : isAlphabetic d = false) :
    c.toLower = d ↔ c = d := by
  refine ⟨?_, fun h => h ▸ toLower_of_not_isAlphabetic (h ▸ hd)⟩
  rintro rfl
  rw [isAlphabetic_toLower] at hd
  exact (toLower_of_not_isAlphabetic hd).symm

/-! ### Texts in lower case -/

theorem byteLength_map_toLower (cs : List Char) :
    byteLength (cs.map Char.toLower) = byteLength cs := by
  induction cs with
  | nil => rfl
  | cons c cs ih => rw [List.map_cons, byteLength, byteLength, utf8Size_toLower, ih]

/-- The same characters are at the front, whatever their case. -/
theorem takeWhile_map_toLower {p : Char → Bool} (hp : ∀ c : Char, p c.toLower = p c)
    (cs : List Char) : (cs.map Char.toLower).takeWhile p = (cs.takeWhile p).map Char.toLower := by
  have hcomp : p ∘ Char.toLower = p := funext hp
  rw [List.takeWhile_map, hcomp]

/-- A text is put in lower case character by character. -/
theorem toList_toLower (s : String) : s.toLower.toList = s.toList.map Char.toLower :=
  String.toList_map

theorem ofList_map_toLower (cs : List Char) :
    String.ofList (cs.map Char.toLower) = (String.ofList cs).toLower := by
  rw [← String.toList_inj, toList_toLower, String.toList_ofList, String.toList_ofList]

/-- Two texts are the same in lower case iff they are so character by character. -/
theorem toLower_eq_toLower_iff {s s' : String} :
    s.toLower = s'.toLower ↔ s.toList.map Char.toLower = s'.toList.map Char.toLower := by
  rw [← String.toList_inj, toList_toLower, toList_toLower]

end TrackCriteria.Text
