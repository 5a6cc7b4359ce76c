import TrackCriteria.Text.CharClass
import Mathlib.Data.List.TakeWhile
import Mathlib.Tactic.Common

/-!
# Runs of characters

A run of characters of one class goes on as far as it can (`head?_drop_takeWhile`). So it ends in
front of a text that starts outside of the class, whatever else the text is
(`takeWhile_append_of_head`, `dropWhile_append_of_head`). What is cut off behind it makes no
difference either (`takeWhile_of_isPrefix`). Trimming a text cuts off the runs of white space at its
ends and nothing else (`exists_trim`).
-/

namespace TrackCriteria.Text

variable {p : Char → Bool} {run rest : List Char}

theorem takeWhile_eq_nil_of_head (hrest : ∀ c ∈ rest.head?, p c = false) :
    rest.takeWhile p = [] := by
  cases rest with
  | nil => rfl
  | cons c rest => exact List.takeWhile_cons_of_neg (Bool.eq_false_iff.mp (hrest c rfl))

/-- A run does not go on into a text that starts outside of its class. -/
theorem takeWhile_append_eq (hrest : ∀ c ∈ rest.head?, p c = false) (cs : List Char) :
    (cs ++ rest).takeWhile p = cs.takeWhile p := by
  rw [List.takeWhile_append, takeWhile_eq_nil_of_head hrest, List.append_nil]
  split_ifs with hlength
  · exact ((List.takeWhile_prefix p).eq_of_length hlength).symm
  · rfl

theorem takeWhile_append_of_head (hrun : ∀ c ∈ run, p c = true)
    (hrest : ∀ c ∈ rest.head?, p c = false) : (run ++ rest).takeWhile p = run := by
  rw [takeWhile_append_eq hrest, List.takeWhile_eq_self_iff.mpr hrun]

theorem dropWhile_append_of_head (hrun : ∀ c ∈ run, p c = true)
    (hrest : ∀ c ∈ rest.head?, p c = false) : (run ++ rest).dropWhile p = rest := by
  have hsplit := List.takeWhile_append_dropWhile (p := p) (l := run ++ rest)
  rw [takeWhile_append_of_head hrun hrest] at hsplit
  exact List.append_cancel_left hsplit

theorem head?_dropWhile (p : Char → Bool) (cs : List Char) :
    ∀ c ∈ (cs.dropWhile p).head?, p c = false := by
  intro c hc
  have hnot := List.head?_dropWhile_not p cs
  rwa [Option.mem_def.mp hc] at hnot

/-- A run goes on as far as it can. -/
theorem head?_drop_takeWhile (p : Char → Bool) (cs : List Char) :
    ∀ c ∈ (cs.drop (cs.takeWhile p).length).head?, p c = false := by
  have hdrop : cs.drop (cs.takeWhile p).length = cs.dropWhile p := by
    calc cs.drop (cs.takeWhile p).length
        = (cs.takeWhile p ++ cs.dropWhile p).drop (cs.takeWhile p).length := by
          rw [List.takeWhile_append_dropWhile]
      _ = cs.dropWhile p := List.drop_left
  rw [hdrop]
  exact head?_dropWhile p cs

/-- A run is the same in a text that is cut off behind it. -/
theorem takeWhile_of_isPrefix {cs ds : List Char} (hrun : cs.takeWhile p <+: ds) (hds : ds <+: cs) :
    ds.takeWhile p = cs.takeWhile p := by
  obtain ⟨more, hmore⟩ := hrun
  obtain ⟨rest, hrest⟩ := hds
  -- Behind the run come the rest of the shorter text and then what was cut off.
  have happend : cs.takeWhile p ++ cs.drop (cs.takeWhile p).length =
      cs.takeWhile p ++ (more ++ rest) := by
    rw [← List.append_assoc, hmore, hrest]
    exact List.prefix_iff_eq_append.mp (List.takeWhile_prefix p)
  have hdrop := List.append_cancel_left happend
  have hend := head?_drop_takeWhile p cs
  rw [hdrop] at hend
  rw [← hmore]
  refine takeWhile_append_of_head (fun c => List.mem_takeWhile_imp) fun c hc => hend c ?_
  simp [Option.mem_def.mp hc]

/-- What is cut off in trimming is white space, and what is left has none at its ends. -/
theorem exists_trim (s : String) :
    ∃ front back, s = front ++ trim s ++ back ∧
      (∀ c ∈ front.toList ++ back.toList, isWhiteSpace c = true) ∧
      (∀ c ∈ (trim s).toList.head?, isWhiteSpace c = false) ∧
      ∀ c ∈ (trim s).toList.getLast?, isWhiteSpace c = false := by
  obtain ⟨back, hback⟩ : ∃ cs, cs = (skipWhiteSpace s.toList).reverse.takeWhile isWhiteSpace :=
    ⟨_, rfl⟩
  have htrim : (trim s).toList = (skipWhiteSpace (skipWhiteSpace s.toList).reverse).reverse :=
    String.toList_ofList
  have hrest : skipWhiteSpace s.toList = (trim s).toList ++ back.reverse := by
    have hsplit : back ++ skipWhiteSpace (skipWhiteSpace s.toList).reverse =
        (skipWhiteSpace s.toList).reverse := by
      rw [hback]
      exact List.takeWhile_append_dropWhile
    rw [htrim, ← List.reverse_append, hsplit, List.reverse_reverse]
  refine ⟨String.ofList (s.toList.takeWhile isWhiteSpace), String.ofList back.reverse, ?_, ?_, ?_,
    ?_⟩
  · rw [← String.toList_inj, String.toList_append, String.toList_append, String.toList_ofList,
      String.toList_ofList, List.append_assoc, ← hrest, skipWhiteSpace,
      List.takeWhile_append_dropWhile]
  · intro c hc
    rw [String.toList_ofList, String.toList_ofList, List.mem_append, List.mem_reverse, hback] at hc
    rcases hc with hc | hc <;> exact List.mem_takeWhile_imp hc
  · -- The first character is also the first one behind the white space at the front.
    intro c hc
    refine head?_dropWhile isWhiteSpace s.toList c ?_
    rw [← skipWhiteSpace, hrest, List.head?_append, Option.mem_def.mp hc]
    rfl
  · rw [htrim, List.getLast?_reverse]
    exact head?_dropWhile isWhiteSpace _

end TrackCriteria.Text
