import TrackCriteria.Predicate.Json
import TrackCriteria.Proofs.Calendar.Timestamp
import TrackCriteria.Proofs.Json.Record

/-!
# Predicates read back from JSON

A predicate to whose instants a clock comes is read back from the document that it is written as,
unless the document is nested too deep, for then it is rejected (`Predicate.ofJson_compact_toJson`).
Each piece is found in the tokens of its document: an instant, a bound, a test of a date and, by
induction on the predicate, every formula (`Predicate.reads_toJson`). A connective needs one level of
nesting more than its operand, or two where an array holds its operands; with fewer levels the
document is rejected, where they run out (`Predicate.rejects_toJson`).
-/

namespace TrackCriteria

open Calendar (Instant)
open Json (Reader Reads Rejects tokens depth reads_pure reads_token reads_string reads_choice_alone
  reads_choice_content rejects_choice_content Yields yields_member yields_record)

/-! ### Nesting -/

theorem Json.depth_object_singleton (key : String) (value : Json) :
    depth (.object [(key, value)]) = depth value + 1 := by
  rw [depth, membersDepth, membersDepth, Nat.max_zero]

theorem Json.depth_array_pair (x y : Json) :
    depth (.array [x, y]) = max (depth x) (depth y) + 1 := by
  rw [depth, itemsDepth, itemsDepth, itemsDepth, Nat.max_zero]

/-! ### Tests -/

theorem Calendar.Instant.reads_reader {t : Instant} (h : t.HasClockTime) :
    Reads Instant.reader (tokens (.string t.text)) t := by
  intro rest
  rw [Instant.reader, tokens, Json.Reader.bind_of_eq_ok (reads_string t.text rest),
    Instant.ofText?_text h]
  rfl

theorem Bound.reads_reader {b : Bound} (h : b.instant.HasClockTime) {levels : Nat}
    (hlevels : 1 ≤ levels) : Reads (Bound.reader levels) (tokens b.toJson) b := by
  have hname : Kind.named.find? (·.1 = b.kind.key) = some (b.kind.key, b.kind) := by
    cases b.kind <;> rfl
  have hcontent : Reads (do return ⟨b.kind, ← Instant.reader⟩) (tokens (.string b.instant.text)) b :=
    (Instant.reads_reader h).map (Bound.mk b.kind)
  rw [Bound.reader, if_neg (by omega), Bound.toJson]
  exact reads_choice_content hname hcontent

theorem DateField.reads_name (field : DateField) (levels : Nat) :
    Reads (Json.Reader.name DateField.named levels) (tokens (.string field.keyword)) field := by
  have hname : DateField.named.find? (·.1 = field.keyword) = some (field.keyword, field) := by
    cases field <;> rfl
  exact reads_choice_alone hname rfl

/-- The content of a test of a date is a record of two fields. -/
theorem Test.reads_dateReader (field : DateField) {b : Bound} (h : b.instant.HasClockTime)
    {levels : Nat} (hlevels : 2 ≤ levels) :
    Reads (Test.dateReader levels)
      (tokens (.object [("field", .string field.keyword), ("bound", b.toJson)]))
      (.date field b) := by
  obtain ⟨levels, rfl⟩ := Nat.exists_eq_add_of_le' (Nat.le_trans (Nat.le_succ 1) hlevels)
  have hfield : Yields (Json.Reader.member DateTestParts.fields levels ⟨none, none⟩)
      (Json.entryTokens ("field", tokens (.string field.keyword))) (.ok ⟨some field, none⟩) :=
    yields_member rfl rfl
      ((field.reads_name levels).yields.map fun field => DateTestParts.mk field none)
  have hbound : Yields (Json.Reader.member DateTestParts.fields levels ⟨some field, none⟩)
      (Json.entryTokens ("bound", tokens b.toJson)) (.ok ⟨some field, some b⟩) :=
    yields_member rfl rfl
      ((Bound.reads_reader h (by omega)).yields.map fun b => DateTestParts.mk field b)
  -- Both fields have been read, and the record is complete.
  have hrecord := yields_record (.reads hfield (.reads hbound (.done _)))
  intro rest
  rw [Json.tokens_object, Test.dateReader]
  exact Json.Reader.bind_of_eq_ok (hrecord rest) _

/-! ### Formulas -/

theorem Json.tokens_array_pair (x y : Json) :
    tokens (.array [x, y]) =
      [.leftBracket] ++ (tokens x ++ ([.comma] ++ (tokens y ++ [.rightBracket]))) := by
  simp only [tokens, itemTokens, List.cons_append, List.nil_append, List.append_assoc]

theorem Json.reads_pair {α : Type} {item : Reader α} {x y : Json} {a b : α}
    (hx : Reads item (tokens x) a) (hy : Reads item (tokens y) b) :
    Reads (Json.Reader.pair item) (tokens (.array [x, y])) (a, b) := by
  rw [Json.tokens_array_pair]
  exact (reads_token .leftBracket).bind (hx.bind ((reads_token .comma).bind (hy.bind
    ((reads_token .rightBracket).map fun _ => (a, b)))))

/-- The second item is only looked at if the first one is found. -/
theorem Json.rejects_pair {α : Type} {item : Reader α} {x y : Json}
    (h : Rejects item (tokens x) ∨ (∃ a, Reads item (tokens x) a) ∧ Rejects item (tokens y)) :
    Rejects (Json.Reader.pair item) (tokens (.array [x, y])) := by
  rw [Json.tokens_array_pair]
  rcases h with hx | ⟨⟨a, hx⟩, hy⟩
  · exact (reads_token .leftBracket).rejects (hx.bind _ _)
  · exact (reads_token .leftBracket).rejects (hx.rejects ((reads_token .comma).rejects
      (hy.bind _ _)))

/-- A flag is a name, at any level. -/
theorem Predicate.reads_flag {name : String} {v : Variant} {p : Predicate}
    (hname : Variant.named.find? (·.1 = name) = some (name, v)) (halone : v.alone? = some p)
    (levels : Nat) : Reads (Predicate.reader levels) (tokens (.string name)) p := by
  cases levels with
  | zero => exact reads_choice_alone hname halone
  | succ levels =>
    rw [Predicate.reader.eq_def]
    exact reads_choice_alone hname halone

/-- Every test is an atom of a predicate. -/
theorem Test.reads_toJson {t : Test}
    (hclock : ∀ field b, t = .date field b → b.instant.HasClockTime) {levels : Nat}
    (hdepth : depth t.toJson ≤ levels) :
    Reads (Predicate.reader levels) (tokens t.toJson) (.atom t) := by
  cases t with
  | clean => exact Predicate.reads_flag (v := .clean) rfl rfl levels
  | explicit => exact Predicate.reads_flag (v := .explicit) rfl rfl levels
  | unlabeled => exact Predicate.reads_flag (v := .unlabeled) rfl rfl levels
  | text field value =>
    -- The key is the word of the field, and the content is one level down.
    have hname : Predicate.Variant.named.find? (·.1 = field.keyword) =
        some (field.keyword, .text field) := by
      cases field <;> rfl
    rw [Test.toJson, Json.depth_object_singleton] at hdepth
    obtain ⟨levels, rfl⟩ := Nat.exists_eq_add_of_le' (Nat.le_trans (Nat.le_add_left 1 _) hdepth)
    have hcontent := (reads_string value).map fun value => Formula.atom (Test.text field value)
    rw [Predicate.reader.eq_def, Test.toJson]
    exact reads_choice_content hname hcontent
  | date field b =>
    rw [Test.toJson, Json.depth_object_singleton] at hdepth
    obtain ⟨levels, rfl⟩ := Nat.exists_eq_add_of_le' (Nat.le_trans (Nat.le_add_left 1 _) hdepth)
    have hlevels : 2 ≤ levels := Nat.le_of_succ_le_succ hdepth
    have hcontent := (Test.reads_dateReader field (hclock field b rfl) hlevels).map Formula.atom
    rw [Predicate.reader.eq_def, Test.toJson]
    exact reads_choice_content (a := Predicate.Variant.date) rfl hcontent

/-- Two predicates are found in an array of their documents, if each is found in its own. -/
theorem Predicate.reads_operands {p q : Predicate} {levels : Nat}
    (hp : depth (toJson p) ≤ levels → Reads (Predicate.reader levels) (tokens (toJson p)) p)
    (hq : depth (toJson q) ≤ levels → Reads (Predicate.reader levels) (tokens (toJson q)) q)
    (hdepth : depth (.array [toJson p, toJson q]) ≤ levels + 1) :
    Reads (Json.Reader.pair (Predicate.reader levels)) (tokens (.array [toJson p, toJson q]))
      (p, q) := by
  rw [Json.depth_array_pair] at hdepth
  have hmax := Nat.max_le.mp (Nat.le_of_succ_le_succ hdepth)
  exact Json.reads_pair (hp hmax.1) (hq hmax.2)

/-- Every predicate is found in the tokens of its document, given as many levels as this has. -/
theorem Predicate.reads_toJson {p : Predicate}
    (hclock : ∀ field b, .date field b ∈ p.atoms → b.instant.HasClockTime) {levels : Nat}
    (hdepth : depth p.toJson ≤ levels) : Reads (Predicate.reader levels) (tokens p.toJson) p := by
  -- By induction on the predicate. Each connective takes one level for its object, and those with
  -- two operands another one for the pair.
  induction p generalizing levels with
  | atom t =>
    refine Test.reads_toJson (fun field b ht => hclock field b ?_) hdepth
    rw [ht]
    exact List.mem_cons_self
  | not p ih =>
    rw [Predicate.toJson, Json.depth_object_singleton] at hdepth
    obtain ⟨levels, rfl⟩ := Nat.exists_eq_add_of_le' (Nat.le_trans (Nat.le_add_left 1 _) hdepth)
    have hcontent := (ih hclock (Nat.le_of_succ_le_succ hdepth)).map Formula.not
    rw [Predicate.reader.eq_def, Predicate.toJson]
    exact reads_choice_content (a := Predicate.Variant.not) rfl hcontent
  | and p q ihp ihq =>
    rw [Predicate.toJson, Json.depth_object_singleton] at hdepth
    obtain ⟨levels, rfl⟩ := Nat.exists_eq_add_of_le' (Nat.le_trans (Nat.le_add_left 2 _) hdepth)
    have hpair := Predicate.reads_operands
      (ihp fun field b hb => hclock field b (List.mem_append_left _ hb))
      (ihq fun field b hb => hclock field b (List.mem_append_right _ hb))
      (Nat.le_of_succ_le_succ hdepth)
    have hcontent := hpair.map fun operands => Formula.and operands.1 operands.2
    rw [Predicate.reader.eq_def, Predicate.toJson]
    exact reads_choice_content (a := Predicate.Variant.and) rfl hcontent
  | or p q ihp ihq =>
    rw [Predicate.toJson, Json.depth_object_singleton] at hdepth
    obtain ⟨levels, rfl⟩ := Nat.exists_eq_add_of_le' (Nat.le_trans (Nat.le_add_left 2 _) hdepth)
    have hpair := Predicate.reads_operands
      (ihp fun field b hb => hclock field b (List.mem_append_left _ hb))
      (ihq fun field b hb => hclock field b (List.mem_append_right _ hb))
      (Nat.le_of_succ_le_succ hdepth)
    have hcontent := hpair.map fun operands => Formula.or operands.1 operands.2
    rw [Predicate.reader.eq_def, Predicate.toJson]
    exact reads_choice_content (a := Predicate.Variant.or) rfl hcontent

/-! ### Too few levels -/

/-- A test of a date needs a level for its record and one for the bound inside of this. -/
theorem Test.rejects_dateReader (field : DateField) (b : Bound) {levels : Nat}
    (hlevels : levels < 2) :
    Rejects (Test.dateReader levels)
      (tokens (.object [("field", .string field.keyword), ("bound", b.toJson)])) := by
  intro rest
  refine ⟨.malformed, ?_⟩
  obtain rfl | rfl : levels = 0 ∨ levels = 1 := by omega
  · rfl
  · cases field <;> rfl

/-- Where no level is left, an object is rejected. -/
theorem Predicate.rejects_object (members : List (String × Json)) :
    Rejects (Predicate.reader 0) (tokens (.object members)) :=
  fun _ => ⟨.malformed, rfl⟩

theorem Test.rejects_toJson {t : Test} {levels : Nat} (hdepth : levels < depth t.toJson) :
    Rejects (Predicate.reader levels) (tokens t.toJson) := by
  cases t with
  | clean => cases hdepth
  | explicit => cases hdepth
  | unlabeled => cases hdepth
  | text field value =>
    obtain rfl : levels = 0 := Nat.lt_one_iff.mp hdepth
    exact Predicate.rejects_object _
  | date field b =>
    -- The object, its content and the bound in it take a level each.
    cases levels with
    | zero => exact Predicate.rejects_object _
    | succ levels =>
      have hlevels : levels < 2 := Nat.lt_of_succ_lt_succ hdepth
      have hcontent := (Test.rejects_dateReader field b hlevels).map Formula.atom
      rw [Predicate.reader.eq_def, Test.toJson]
      exact rejects_choice_content (a := Predicate.Variant.date) rfl hcontent

theorem Predicate.rejects_operands {p q : Predicate} {levels : Nat}
    (hread : depth (toJson p) ≤ levels → Reads (Predicate.reader levels) (tokens (toJson p)) p)
    (hp : levels < depth (toJson p) → Rejects (Predicate.reader levels) (tokens (toJson p)))
    (hq : levels < depth (toJson q) → Rejects (Predicate.reader levels) (tokens (toJson q)))
    (hdepth : levels + 1 < depth (.array [toJson p, toJson q])) :
    Rejects (Json.Reader.pair (Predicate.reader levels))
      (tokens (.array [toJson p, toJson q])) := by
  rw [Json.depth_array_pair] at hdepth
  have hmax := lt_max_iff.mp (Nat.lt_of_succ_lt_succ hdepth)
  by_cases hle : depth (toJson p) ≤ levels
  · have hlt := hmax.resolve_left (Nat.not_lt.mpr hle)
    exact Json.rejects_pair (.inr ⟨⟨p, hread hle⟩, hq hlt⟩)
  · exact Json.rejects_pair (.inl (hp (Nat.not_le.mp hle)))

/-- No predicate is found with fewer levels than its document has. -/
theorem Predicate.rejects_toJson {p : Predicate}
    (hclock : ∀ field b, .date field b ∈ p.atoms → b.instant.HasClockTime) {levels : Nat}
    (hdepth : levels < depth p.toJson) : Rejects (Predicate.reader levels) (tokens p.toJson) := by
  -- By induction on the predicate. The levels run out at the object, at the pair in it, or in the
  -- first operand that needs more; an operand in front of that one is read.
  induction p generalizing levels with
  | atom t => exact Test.rejects_toJson hdepth
  | not p ih =>
    rw [Predicate.toJson, Json.depth_object_singleton] at hdepth
    cases levels with
    | zero => exact Predicate.rejects_object _
    | succ levels =>
      have hcontent := (ih hclock (Nat.lt_of_succ_lt_succ hdepth)).map Formula.not
      rw [Predicate.reader.eq_def, Predicate.toJson]
      exact rejects_choice_content (a := Predicate.Variant.not) rfl hcontent
  | and p q ihp ihq =>
    rw [Predicate.toJson, Json.depth_object_singleton] at hdepth
    cases levels with
    | zero => exact Predicate.rejects_object _
    | succ levels =>
      rw [Predicate.reader.eq_def, Predicate.toJson]
      refine rejects_choice_content (a := Predicate.Variant.and) rfl ?_
      cases levels with
      | zero => exact Json.rejects_malformed _
      | succ levels =>
        have hleft := fun field b hb => hclock field b (List.mem_append_left _ hb)
        have hright := fun field b hb => hclock field b (List.mem_append_right _ hb)
        have hpair := Predicate.rejects_operands (Predicate.reads_toJson hleft) (ihp hleft)
          (ihq hright) (Nat.lt_of_succ_lt_succ hdepth)
        exact hpair.map fun operands => Formula.and operands.1 operands.2
  | or p q ihp ihq =>
    rw [Predicate.toJson, Json.depth_object_singleton] at hdepth
    cases levels with
    | zero => exact Predicate.rejects_object _
    | succ levels =>
      rw [Predicate.reader.eq_def, Predicate.toJson]
      refine rejects_choice_content (a := Predicate.Variant.or) rfl ?_
      cases levels with
      | zero => exact Json.rejects_malformed _
      | succ levels =>
        have hleft := fun field b hb => hclock field b (List.mem_append_left _ hb)
        have hright := fun field b hb => hclock field b (List.mem_append_right _ hb)
        have hpair := Predicate.rejects_operands (Predicate.reads_toJson hleft) (ihp hleft)
          (ihq hright) (Nat.lt_of_succ_lt_succ hdepth)
        exact hpair.map fun operands => Formula.or operands.1 operands.2

/-! ### Whole documents -/

/-- **A predicate is read back iff its document has fewer than 128 levels**, if a clock comes to each of
its instants. What is read is satisfied by the same tracks as before. -/
theorem Predicate.ofJson_compact_toJson {p : Predicate}
    (hclock : ∀ field b, .date field b ∈ p.atoms → b.instant.HasClockTime) :
    (depth p.toJson < 128 → ofJson (Json.compact p.toJson) = .ok p) ∧
      (128 ≤ depth p.toJson → ∃ fault, ofJson (Json.compact p.toJson) = .error fault) ∧
      ∀ q, ofJson (Json.compact p.toJson) = .ok q →
        ∀ track : Track, q.matches track = p.matches track := by
  have hread : depth p.toJson ≤ Json.maxLevels → ofJson (Json.compact p.toJson) = .ok p :=
    fun hle => Json.read_compact (Predicate.reads_toJson hclock hle)
  have hreject : Json.maxLevels < depth p.toJson →
      ∃ fault, ofJson (Json.compact p.toJson) = .error fault :=
    fun hlt => Json.read_compact_error (Predicate.rejects_toJson hclock hlt)
  refine ⟨fun hlt => hread (Nat.le_of_lt_succ hlt), hreject, fun q hq track => ?_⟩
  rcases Nat.lt_or_ge Json.maxLevels (depth p.toJson) with hlt | hle
  · obtain ⟨fault, hfault⟩ := hreject hlt
    rw [hfault] at hq
    cases hq
  · rw [hread hle] at hq
    cases hq
    rfl

/-- A text with a quote, a control character and a character that takes two units of UTF-16, the leap
second at the end of 2016 and the first instant of all are read back. -/
theorem Predicate.ofJson_compact_toJson_leapSecond :
    ∃ (leap : Instant) (p : Predicate), leap.text = "2016-12-31T23:59:60.500Z" ∧
      p = .and (.not (.atom (.text .name "\"\x01𝄞")))
        (.or (.atom (.date .added ⟨.lessThan, leap⟩))
          (.atom (.date .released ⟨.greaterOrEqual, .first⟩))) ∧
      depth p.toJson = 7 ∧ ofJson (Json.compact p.toJson) = .ok p := by
  obtain ⟨leap, hleap⟩ : ∃ leap : Instant, leap = ⟨1483228799, 1500000000, by decide, by decide,
    by decide⟩ := ⟨_, rfl⟩
  obtain ⟨p, hp⟩ : ∃ p : Predicate, p = .and (.not (.atom (.text .name "\"\x01𝄞")))
    (.or (.atom (.date .added ⟨.lessThan, leap⟩))
      (.atom (.date .released ⟨.greaterOrEqual, .first⟩))) := ⟨_, rfl⟩
  have htext : leap.text = "2016-12-31T23:59:60.500Z" := by
    rw [hleap]
    decide
  have hdepth : depth p.toJson = 7 := by
    rw [hp]
    rfl
  have hclock : ∀ field b, .date field b ∈ p.atoms → b.instant.HasClockTime := by
    intro field b hb
    simp only [hp, Formula.atoms, List.cons_append, List.nil_append, List.mem_cons,
      List.not_mem_nil, or_false, Test.date.injEq, reduceCtorEq, false_or] at hb
    rcases hb with ⟨-, rfl⟩ | ⟨-, rfl⟩
    · intro _
      rw [hleap]
      decide
    · intro h
      cases h
  have hlt : depth p.toJson < 128 := by
    rw [hdepth]
    decide
  exact ⟨leap, p, htext, hp, hdepth, (Predicate.ofJson_compact_toJson hclock).1 hlt⟩

end TrackCriteria
