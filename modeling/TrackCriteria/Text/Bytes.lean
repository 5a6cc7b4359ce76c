/-!
# Characters and their bytes

How many bytes characters take up in UTF-8, and how to take away as many characters as make up a
number of bytes.
-/

namespace TrackCriteria.Text

/-- The number of bytes of some characters in UTF-8. -/
def byteLength : List Char → Nat
  | [] => 0
  | c :: cs => c.utf8Size + byteLength cs

theorem byteLength_append (cs ds : List Char) :
    byteLength (cs ++ ds) = byteLength cs + byteLength ds := by
  induction cs with
  | nil => exact (Nat.zero_add _).symm
  | cons c cs ih => rw [List.cons_append, byteLength, byteLength, ih, Nat.add_assoc]

/-- Of two texts at the front of another one, the one with fewer bytes is at the front of the other.
-/
theorem prefix_of_byteLength_le {cs ds es : List Char} (hcs : cs <+: es) (hds : ds <+: es)
    (hle : byteLength cs ≤ byteLength ds) : cs <+: ds := by
  rcases List.prefix_or_prefix_of_prefix hcs hds with h | ⟨more, rfl⟩
  · exact h
  · cases more with
    | nil => simp
    | cons c more =>
      have hpos := c.utf8Size_pos
      rw [byteLength_append, byteLength] at hle
      omega

/-- Strings take up the bytes of their characters. -/
theorem utf8ByteSize_ofList (cs : List Char) :
    (String.ofList cs).utf8ByteSize = byteLength cs := by
  induction cs with
  | nil => rfl
  | cons c cs ih =>
    rw [String.ofList_cons, String.utf8ByteSize_append, String.utf8ByteSize_singleton, ih,
      byteLength]

/-- What is left of a text after its first `n` bytes, unless they end inside of a character. -/
def dropBytes? (n : Nat) : List Char → Option (List Char)
  | [] => if n = 0 then some [] else none
  | c :: cs =>
    if n = 0 then some (c :: cs)
    else if c.utf8Size ≤ n then dropBytes? (n - c.utf8Size) cs
    else none

/-- The bytes that are taken away are those at the front. -/
theorem exists_append_of_dropBytes? {n : Nat} {cs rest : List Char}
    (h : dropBytes? n cs = some rest) : ∃ front, cs = front ++ rest ∧ byteLength front = n := by
  induction cs generalizing n with
  | nil =>
    simp only [dropBytes?, Option.ite_none_right_eq_some, Option.some.injEq] at h
    exact ⟨[], by simp [h.2], by simp [byteLength, h.1]⟩
  | cons c cs ih =>
    simp only [dropBytes?] at h
    split at h
    · next hn => exact ⟨[], by simpa using h, by simp [byteLength, hn]⟩
    · split at h
      · next hle =>
        obtain ⟨front, happ, hlen⟩ := ih h
        exact ⟨c :: front, by simp [happ], by simp only [byteLength, hlen]; omega⟩
      · cases h

end TrackCriteria.Text
