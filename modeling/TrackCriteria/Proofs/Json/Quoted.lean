import TrackCriteria.Json.Token
import TrackCriteria.Json.Writer
import Mathlib.Tactic.Common

/-!
# Quoted texts in JSON

A quoted text is read back (`readString_escaped`). Each character is written as one piece: an escape of
its own, an escape by code point, or the character itself (`readString_escapeChar`). The escapes by
code point are those of control characters, so none of them is half of a surrogate pair, and the
pieces make up the text (`join?_map_pieceOf`).
-/

namespace TrackCriteria.Json

/-! ### One character -/

/-- The characters that have an escape of their own. -/
def shortEscapes : List Char := ['"', '\\', '\n', '\r', '\t', '\x08', '\x0c']

/-- The piece that a character is written as. -/
def pieceOf (c : Char) : Piece :=
  if c ∉ shortEscapes ∧ c.toNat < 0x20 then .unit c.toNat else .char c

/-- The hexadecimal digits of a control character denote its code point. -/
theorem hexValue4?_hexDigit : ∀ n < 0x20,
    hexValue4? '0' '0' (hexDigit (n / 16)) (hexDigit (n % 16)) = some n := by
  decide

/-- A character is read as the piece that it is written as, whatever comes after it. -/
theorem readString_escapeChar (c : Char) (cs : List Char) :
    readString (escapeChar c ++ cs) =
      (readString cs).map fun (pieces, rest) => (pieceOf c :: pieces, rest) := by
  -- A character has an escape of its own, or one by its number, or none.
  by_cases hshort : c ∈ shortEscapes
  · have hpiece : pieceOf c = .char c := if_neg fun h => h.1 hshort
    rw [hpiece]
    simp only [shortEscapes, List.mem_cons, List.not_mem_nil, or_false] at hshort
    cases hread : readString cs <;>
      rcases hshort with rfl | rfl | rfl | rfl | rfl | rfl | rfl <;>
      simp [escapeChar, readString, escaped?, hread]
  · have hplain := hshort
    simp only [shortEscapes, List.mem_cons, List.not_mem_nil, or_false, not_or] at hplain
    by_cases hcontrol : c.toNat < 0x20
    · have hpiece : pieceOf c = .unit c.toNat := if_pos ⟨hshort, hcontrol⟩
      have hescape : escapeChar c =
          ['\\', 'u', '0', '0', hexDigit (c.toNat / 16), hexDigit (c.toNat % 16)] := by
        simp [escapeChar, hplain, hcontrol]
      have hhex := hexValue4?_hexDigit c.toNat hcontrol
      rw [hpiece, hescape]
      cases hread : readString cs <;> simp [readString, hhex, hread]
    · have hpiece : pieceOf c = .char c := if_neg fun h => hcontrol h.2
      have hescape : escapeChar c = [c] := by simp [escapeChar, hplain, hcontrol]
      rw [hpiece, hescape, List.singleton_append]
      cases hread : readString cs <;> simp [readString, hplain, hcontrol, hread]

/-- The piece of a character makes up this character, in front of any others. -/
theorem join?_pieceOf_cons (c : Char) (pieces : List Piece) :
    join? (pieceOf c :: pieces) = (join? pieces).map (c :: ·) := by
  unfold pieceOf
  split
  · next h =>
    have hscalar : c.toNat < 0xd800 ∨ 0xe000 ≤ c.toNat := by omega
    -- What follows only matters to half of a surrogate pair.
    rcases pieces with _ | ⟨⟨_⟩ | ⟨_⟩, pieces⟩ <;>
      simp only [join?.eq_def (_ :: _), if_pos hscalar, Char.ofNat_toNat]
  · rfl

/-! ### Whole texts -/

theorem readString_escaped (cs rest : List Char) :
    readString (cs.flatMap escapeChar ++ '"' :: rest) = some (cs.map pieceOf, rest) := by
  induction cs with
  | nil => rfl
  | cons c cs ih =>
    rw [List.flatMap_cons, List.append_assoc, readString_escapeChar, ih]
    rfl

theorem join?_map_pieceOf (cs : List Char) : join? (cs.map pieceOf) = some cs := by
  induction cs with
  | nil => rfl
  | cons c cs ih =>
    rw [List.map_cons, join?_pieceOf_cons, ih]
    rfl

end TrackCriteria.Json
