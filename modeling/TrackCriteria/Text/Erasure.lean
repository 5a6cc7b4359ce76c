import TrackCriteria.Text.Bytes
import TrackCriteria.Text.Cluster

/-!
# Erasures in a typed line

A line may hold backspaces. Each of them erases the last cluster that was typed before it and has
not been erased, if there is one. How many bytes a cluster has is remembered in a single byte, so of
a cluster of 256 bytes or more an erasure takes away only its length modulo 256, and fails if that
ends inside of a character.

Main fact: a line without backspaces stays as it is (`erase?_eq_some`).
-/

namespace TrackCriteria.Text

/-- The backspace. -/
def backspace : Char := '\x08'

/-- A line that is being typed. -/
structure Draft where
  /-- The characters of the line, the last one first. -/
  typed : List Char
  /-- What is remembered of the lengths of the clusters, the last one first. -/
  lengths : List Nat
deriving DecidableEq

namespace Draft

/-- The line before anything is typed. -/
def empty : Draft := ⟨[], []⟩

/-- The line after one more cluster. -/
def type? (d : Draft) (cluster : List Char) : Option Draft :=
  if cluster = [backspace] then
    match d.lengths with
    | [] => some d
    | n :: lengths => (dropBytes? n d.typed).map (⟨·, lengths⟩)
  else
    some ⟨cluster.reverse ++ d.typed, byteLength cluster % 256 :: d.lengths⟩

theorem foldlM_type? {clusters : List (List Char)} (h : [backspace] ∉ clusters) (d : Draft) :
    (clusters.foldlM type? d).map (·.typed) = some (clusters.flatten.reverse ++ d.typed) := by
  induction clusters generalizing d with
  | nil => rfl
  | cons cluster clusters ih =>
    simp only [List.mem_cons, not_or] at h
    simp [List.foldlM_cons, type?, Ne.symm h.1, ih h.2]

end Draft

/-- A line with its erasures made, unless one of them fails. -/
def erase? (cs : List Char) : Option (List Char) :=
  ((clusters cs).foldlM Draft.type? Draft.empty).map (·.typed.reverse)

theorem erase?_eq_some {cs : List Char} (h : backspace ∉ cs) : erase? cs = some cs := by
  have hnot : [backspace] ∉ clusters cs := fun hmem =>
    h (flatten_clusters cs ▸ List.mem_flatten.2 ⟨_, hmem, List.mem_singleton_self _⟩)
  have hmap := congrArg (Option.map List.reverse) (Draft.foldlM_type? hnot Draft.empty)
  simpa [erase?, Draft.empty, flatten_clusters, Function.comp_def] using hmap

end TrackCriteria.Text
