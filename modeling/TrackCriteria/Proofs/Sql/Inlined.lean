import TrackCriteria.Proofs.Sql.Literal
import TrackCriteria.Proofs.Sql.ReadBack
import Mathlib.Data.List.Forall2

/-!
# Inlined texts

The inlined text of a selection is the prepared one with a literal in each place
(`inlined_selectTracks`). Both are put together from the texts around the values (`textsOf`), and
none of the texts behind a value starts with a quote, which could go on with the literal
(`textsOf_of_areApart`).
-/

namespace TrackCriteria.Sql

/-! ### The texts around the values -/

/-- The text before the first value, and the one after each value. -/
def textsOf : List Fragment → String × List String
  | [] => ("", [])
  | .text s :: fs => (s ++ (textsOf fs).1, (textsOf fs).2)
  | .value _ :: fs => ("", (textsOf fs).1 :: (textsOf fs).2)

theorem length_textsOf (fs : List Fragment) : (textsOf fs).2.length = (valuesOf fs).length := by
  induction fs with
  | nil => rfl
  | cons f fs ih => cases f <;> simp [textsOf, ih]

theorem preparedFrom_eq (next : Nat) (fs : List Fragment) :
    preparedFrom next fs = (textsOf fs).1 ++ String.join (List.zipWith (· ++ ·)
      ((List.range' next (valuesOf fs).length).map fun n => "$" ++ n.repr) (textsOf fs).2) := by
  induction fs generalizing next with
  | nil => rfl
  | cons f fs ih =>
    cases f with
    | text s => simp [preparedFrom, textsOf, ih, String.append_assoc]
    | value v => simp [preparedFrom, textsOf, ih, List.range'_succ, String.append_assoc]

theorem Select.inlined_eq (q : Select) :
    q.inlined = (textsOf q.fragments).1 ++ String.join (List.zipWith (· ++ ·)
      (q.values.map Value.literal) (textsOf q.fragments).2) := by
  unfold Select.inlined
  rw [values_eq]
  induction q.fragments with
  | nil => rfl
  | cons f fs ih =>
    cases f with
    | text s => simp [textsOf, ih, String.append_assoc]
    | value v => simp [textsOf, ih, String.append_assoc]

/-- Values in a row have one row of literals. -/
theorem forall₂_isLiteral_iff {values : List Value} {literals : List String} :
    List.Forall₂ Value.IsLiteral values literals ↔ literals = values.map Value.literal := by
  have hliteral : Value.IsLiteral = fun v literal => v.literal = literal :=
    funext₂ fun v literal => propext ((v.isLiteral_iff literal).trans eq_comm)
  rw [hliteral, ← List.forall₂_map_left_iff, List.forall₂_eq_eq_eq, eq_comm]

/-! ### What follows a literal -/

/-- Whether a fragment ends a literal that it comes after: it starts with a character, and not with
a quote, which could go on with the literal. -/
def Fragment.EndsLiteral : Fragment → Prop
  | .text s => s.toList.head?.any (· ≠ '\'')
  | .value _ => False

/-- Whether each value is the last fragment or is followed by one that ends its literal. -/
def AreApart : List Fragment → Prop
  | [] => True
  | .text _ :: fs => AreApart fs
  | .value _ :: fs => (∀ f ∈ fs.head?, f.EndsLiteral) ∧ AreApart fs

variable {fs gs : List Fragment} {s : String}

@[simp]
theorem areApart_nil : AreApart [] := trivial

@[simp]
theorem areApart_text : AreApart (.text s :: fs) ↔ AreApart fs := Iff.rfl

@[simp]
theorem areApart_value (v : Value) :
    AreApart (.value v :: fs) ↔ (∀ f ∈ fs.head?, f.EndsLiteral) ∧ AreApart fs :=
  Iff.rfl

/-- A text between fragments keeps their values apart. -/
@[simp]
theorem areApart_join (hs : s.toList.head?.any (· ≠ '\'')) :
    AreApart (fs ++ .text s :: gs) ↔ AreApart fs ∧ AreApart gs := by
  induction fs with
  | nil => simp
  | cons f fs ih =>
    cases f with
    | text => simpa using ih
    | value v =>
      -- What stands behind the value is the same, unless it was the last one; then it is the text.
      have hhead : (∀ f ∈ (fs ++ .text s :: gs).head?, f.EndsLiteral) ↔
          ∀ f ∈ fs.head?, f.EndsLiteral := by
        cases fs with
        | nil => simpa [Fragment.EndsLiteral] using hs
        | cons f fs => simp
      rw [List.cons_append, areApart_value, areApart_value, hhead, ih, and_assoc]

@[simp]
theorem areApart_parenthesized {needed : Bool} (h : AreApart fs) :
    AreApart (parenthesized needed fs) := by
  cases needed <;> simp [parenthesized, h]

theorem areApart_conjunction {fss : List (List Fragment)} (h : ∀ fs ∈ fss, AreApart fs) :
    AreApart (conjunction fss) := by
  induction fss with
  | nil => simp [conjunction]
  | cons fs fss ih =>
    obtain ⟨hfs, hfss⟩ := List.forall_mem_cons.mp h
    cases fss with
    | nil => simpa [conjunction] using hfs
    | cons gs fss => simpa [conjunction, hfs] using ih hfss

@[simp]
theorem areApart_operand (o : Operand) : AreApart o.fragments := by
  cases o <;> simp [Operand.fragments]

@[simp]
theorem areApart_relation (r : Relation) : AreApart r.fragments := by
  simp [Relation.fragments]

@[simp]
theorem areApart_subquery (q : Subquery) : AreApart q.fragments := by
  have hconditions : AreApart (conjunction (q.conditions.map Relation.fragments)) :=
    areApart_conjunction (by simp)
  simp [Subquery.fragments, hconditions]

theorem areApart_condition (c : Condition) : AreApart (Condition.fragments c) := by
  induction c with
  | atom leaf => cases leaf <;> simp [Condition.fragments, Leaf.fragments]
  | not c ih => simp [Condition.fragments, ih]
  | and c d ihc ihd => simp [Condition.fragments, ihc, ihd]
  | or c d ihc ihd => simp [Condition.fragments, ihc, ihd]

theorem areApart_select (q : Select) : AreApart q.fragments := by
  have hwhere : AreApart q.whereFragments := by
    refine areApart_conjunction ?_
    cases q.condition <;> simp [areApart_condition]
  unfold Select.fragments
  cases q.limit <;> simp [hwhere]

theorem Fragment.EndsLiteral.head?_ne (h : EndsLiteral (.text s)) : s.toList.head? ≠ some '\'' := by
  intro hquote
  simp [EndsLiteral, hquote] at h

theorem Fragment.EndsLiteral.ne_empty (h : EndsLiteral (.text s)) : s ≠ "" := by
  rintro rfl
  simp [EndsLiteral] at h

/-- A fragment ends a literal together with the texts after it. -/
theorem endsLiteral_textsOf {f : Fragment} (h : f.EndsLiteral) (fs : List Fragment) :
    Fragment.EndsLiteral (.text (textsOf (f :: fs)).1) := by
  cases f with
  | value v => exact absurd h id
  | text s =>
    cases hchar : s.toList.head? with
    | none => simp [Fragment.EndsLiteral, hchar] at h
    | some c =>
      simp only [Fragment.EndsLiteral, hchar] at h
      simpa [Fragment.EndsLiteral, textsOf, List.head?_append, hchar] using h

/-- The text after a value starts with no quote, and only the last one may be empty. -/
theorem textsOf_of_areApart (h : AreApart fs) :
    (∀ s ∈ (textsOf fs).2, s.toList.head? ≠ some '\'') ∧
      ∀ s ∈ (textsOf fs).2.dropLast, s ≠ "" := by
  induction fs with
  | nil => simp [textsOf]
  | cons f fs ih =>
    cases f with
    | text s => exact ih h
    | value v =>
      obtain ⟨hhead, hfs⟩ := h
      obtain ⟨hquote, hempty⟩ := ih hfs
      cases fs with
      | nil => simp [textsOf]
      | cons f fs =>
        have hends := endsLiteral_textsOf (hhead f rfl) fs
        refine ⟨List.forall_mem_cons.mpr ⟨hends.head?_ne, hquote⟩, ?_⟩
        rw [textsOf]
        -- The text behind the value is the last one, or one more that is not empty.
        cases hrest : (textsOf (f :: fs)).2 with
        | nil => simp
        | cons s' ss =>
          rw [hrest] at hempty
          exact List.forall_mem_cons.mpr ⟨hends.ne_empty, hempty⟩

end TrackCriteria.Sql

namespace TrackCriteria.Schema

open Sql

/-! ### Inlined texts -/

/-- **The inlined text is the prepared one with literals in its places**, and no text can break out
of its literal. The two have the same texts around their places and literals, and the literals are
those of the values in the order of their places. A value has just one literal. The literal of any
text is read as one whole, neither less nor more, unless a quote follows; and no quote does, since
none of the texts around the literals starts with one, and literals are apart from each other. -/
theorem inlined_selectTracks (s : Schema) (predicate : Option Predicate) (userId : Int)
    (limit : Option Nat) :
    (∃ first literals rest,
      List.Forall₂ Value.IsLiteral (s.selectTracks predicate userId limit).values literals ∧
      rest.length = (s.selectTracks predicate userId limit).values.length ∧
      (∀ text ∈ rest, text.toList.head? ≠ some '\'') ∧ (∀ text ∈ rest.dropLast, text ≠ "") ∧
      (s.selectTracks predicate userId limit).prepared = first ++ String.join (List.zipWith (· ++ ·)
        ((List.range' 1 (s.selectTracks predicate userId limit).values.length).map
          fun n => "$" ++ n.repr) rest) ∧
      (s.selectTracks predicate userId limit).inlined =
        first ++ String.join (List.zipWith (· ++ ·) literals rest)) ∧
    (∀ (v : Value) (literal : String), v.IsLiteral literal ↔ literal = v.literal) ∧
    ∀ (text : String) (rest : List Char), rest.head? ≠ some '\'' →
      afterLiteral? ((Value.string text).literal.toList ++ rest) = some rest := by
  have hapart := areApart_select (s.selectTracks predicate userId limit)
  obtain ⟨hquote, hempty⟩ := textsOf_of_areApart hapart
  refine ⟨⟨_, _, _, forall₂_isLiteral_iff.mpr rfl, length_textsOf _, hquote, hempty,
    preparedFrom_eq 1 _, Select.inlined_eq _⟩, Value.isLiteral_iff, ?_⟩
  intro text rest hrest
  rw [Value.literal, String.toList_ofList]
  exact afterLiteral?_stringLiteral text hrest

/-- The places of a query hold the user, a truth value, a text with a backslash, a quote and a comment
in it, an instant, and the limit. Their literals take these places, and the text stays inside of its
own. -/
theorem inlined_selectTracks_comment :
    ∃ (q : Select) (t : Calendar.Instant) (first : String) (literals texts : List String)
      (rest : List Char),
      q = Schema.standard.selectTracks
        (some (.and (.atom .explicit) (.or (.atom (.text .name "\\' OR 1=1 --"))
          (.atom (.date .added ⟨.lessThan, t⟩))))) (-7) (some 500) ∧
      t.seconds = 1577934245 ∧ t.nanos = 500000000 ∧
      q.values = [.bigint (-7), .bool true, .string "\\' OR 1=1 --", .instant t, .ubigint 500] ∧
      literals = ["-7", "TRUE", "E'\\\\\\' OR 1=1 --'", "'2020-01-02 03:04:05.500000 +00:00'",
        "500"] ∧
      List.Forall₂ Value.IsLiteral q.values literals ∧
      q.prepared = first ++ String.join (List.zipWith (· ++ ·)
        ["$1", "$2", "$3", "$4", "$5"] texts) ∧
      q.inlined = first ++ String.join (List.zipWith (· ++ ·) literals texts) ∧
      rest = ") AND".toList ∧ rest.head? ≠ some '\'' ∧
      afterLiteral? ((Value.string "\\' OR 1=1 --").literal.toList ++ rest) = some rest := by
  have hrest : ") AND".toList.head? ≠ some '\'' := by decide
  obtain ⟨t, ht⟩ : ∃ t : Calendar.Instant, t =
    ⟨1577934245, 500000000, by decide, by decide, by decide⟩ := ⟨_, rfl⟩
  obtain ⟨⟨first, literals, texts, hliterals, -, -, -, hprepared, hinlined⟩, -, hlexical⟩ :=
    inlined_selectTracks Schema.standard (some (.and (.atom .explicit)
      (.or (.atom (.text .name "\\' OR 1=1 --")) (.atom (.date .added ⟨.lessThan, t⟩))))) (-7)
      (some 500)
  refine ⟨_, t, first, literals, texts, _, rfl, by rw [ht], by rw [ht], rfl, ?_, hliterals,
    hprepared, hinlined, rfl, hrest, hlexical _ _ hrest⟩
  rw [forall₂_isLiteral_iff.mp hliterals, ht]
  decide

end TrackCriteria.Schema
