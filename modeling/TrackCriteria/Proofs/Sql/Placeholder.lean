import TrackCriteria.Proofs.Sql.ReadBack

/-!
# The places in a prepared text

A prepared text has the places `$1`, `$2` and so on, one for each value and in the order of the
values (`Numbers`); no name and no other part of the text is read as a place. The text depends on
nothing but the shape of the predicate and whether there is a limit: texts, instants, the user and
the number of rows are values (`prepared_selectTracks`).
-/

namespace TrackCriteria

open Sql

/-! ### Predicates of the same shape -/

/-- Whether tests differ in nothing but a text or an instant. -/
inductive Test.SameShape : Test → Test → Prop where
  | clean : SameShape .clean .clean
  | explicit : SameShape .explicit .explicit
  | unlabeled : SameShape .unlabeled .unlabeled
  | text (field : TextField) (value value' : String) :
    SameShape (.text field value) (.text field value')
  | date (field : DateField) (kind : Bound.Kind) (instant instant' : Calendar.Instant) :
    SameShape (.date field ⟨kind, instant⟩) (.date field ⟨kind, instant'⟩)

/-- Whether predicates are built alike from tests of the same shape. -/
inductive Predicate.SameShape : Predicate → Predicate → Prop where
  | atom {t t' : Test} : t.SameShape t' → SameShape (.atom t) (.atom t')
  | not {p p' : Predicate} : SameShape p p' → SameShape (.not p) (.not p')
  | and {p p' q q' : Predicate} : SameShape p p' → SameShape q q' →
    SameShape (.and p q) (.and p' q')
  | or {p p' q q' : Predicate} : SameShape p p' → SameShape q q' → SameShape (.or p q) (.or p' q')

/-- The values that a test is compared with. The number stands for the result of a subquery that is
only asked whether it has any. -/
def Test.values : Test → List Value
  | .clean => [.bool false]
  | .explicit => [.bool true]
  | .unlabeled => [.int 1]
  | .text .name value => [.string value]
  | .text .label value => [.int 1, .string value]
  | .text .album value => [.string value]
  | .text .artist value => [.int 1, .string value]
  | .date _ bound => [.instant bound.instant]

namespace Sql

variable {fs gs : List Fragment} {s : String} {ws : List Lexeme}

/-! ### Texts without their values -/

/-- The text of a fragment that is not a value. -/
def Fragment.text? : Fragment → Option String
  | .text s => some s
  | .value _ => none

/-- The prepared text depends on where values stand and not on what they are. -/
theorem preparedFrom_congr (h : fs.map Fragment.text? = gs.map Fragment.text?) (next : Nat) :
    preparedFrom next fs = preparedFrom next gs := by
  induction fs generalizing gs next with
  | nil => simp [List.map_eq_nil_iff.mp h.symm]
  | cons f fs ih =>
    -- The heads are the same text, or both are values and have the next number.
    obtain ⟨g, gs, rfl, hg, hgs⟩ := List.map_eq_cons_iff.mp h.symm
    cases f with
    | text s =>
      cases g with
      | text s' =>
        simp only [Fragment.text?, Option.some.injEq] at hg
        rw [preparedFrom, preparedFrom, hg, ih hgs.symm]
      | value v => simp [Fragment.text?] at hg
    | value v =>
      cases g with
      | text s' => simp [Fragment.text?] at hg
      | value v' => rw [preparedFrom, preparedFrom, ih hgs.symm]

theorem map_text?_parenthesized {needed needed' : Bool} (hneeded : needed = needed')
    (h : fs.map Fragment.text? = gs.map Fragment.text?) :
    (parenthesized needed fs).map Fragment.text? =
      (parenthesized needed' gs).map Fragment.text? := by
  subst hneeded
  cases needed <;> simp [parenthesized, h]

/-- Whether conditions are written alike but for their values. -/
structure Condition.SameText (c c' : Condition) : Prop where
  fragments : (Condition.fragments c).map Fragment.text? =
    (Condition.fragments c').map Fragment.text?
  needsParens : needsParens c = needsParens c'
  leftOfAnd : needsParensLeftOfAnd c = needsParensLeftOfAnd c'
  leftOfOr : needsParensLeftOfOr c = needsParensLeftOfOr c'

variable {c c' d d' : Condition}

theorem Condition.SameText.not (h : c.SameText c') : SameText (.not c) (.not c') := by
  refine ⟨?_, rfl, rfl, rfl⟩
  simp [Condition.fragments, map_text?_parenthesized h.needsParens h.fragments]

theorem Condition.SameText.and (h : c.SameText c') (h' : d.SameText d') :
    SameText (.and c d) (.and c' d') := by
  refine ⟨?_, rfl, rfl, rfl⟩
  simp [Condition.fragments, map_text?_parenthesized h.leftOfAnd h.fragments,
    map_text?_parenthesized h'.needsParens h'.fragments]

theorem Condition.SameText.or (h : c.SameText c') (h' : d.SameText d') :
    SameText (.or c d) (.or c' d') := by
  refine ⟨?_, rfl, rfl, rfl⟩
  simp [Condition.fragments, map_text?_parenthesized h.leftOfOr h.fragments,
    map_text?_parenthesized h'.needsParens h'.fragments]

/-! ### Places -/

/-- The places among some lexemes. -/
def placesOf (ls : List Lexeme) : List Nat :=
  ls.filterMap fun
    | .place n => some n
    | _ => none

@[simp]
theorem placesOf_append (ls ls' : List Lexeme) :
    placesOf (ls ++ ls') = placesOf ls ++ placesOf ls' :=
  List.filterMap_append

/-- The values of the fragments have one place each, in their order, wherever the fragments stand
among others. -/
def Numbers (fs : List Fragment) : Prop :=
  ∀ next, ∃ ls, Lexes (chars next fs) ls ∧ placesOf ls = List.range' next (valuesOf fs).length

theorem numbers_nil : Numbers [] :=
  fun _ => ⟨[], lexes_nil, rfl⟩

theorem numbers_text {ls : List Lexeme} (h : Lexes s.toList ls) (hls : placesOf ls = []) :
    Numbers [.text s] := by
  intro next
  refine ⟨ls, ?_, by simp [hls]⟩
  simpa using h

theorem numbers_value (v : Value) : Numbers [.value v] := by
  intro next
  refine ⟨[.place next], ?_, rfl⟩
  simpa using lexes_place next

/-- A text with no place in it may come first. -/
theorem Numbers.after (h : Numbers fs) (hopen : Closes s.toList ws) (hws : placesOf ws = []) :
    Numbers (.text s :: fs) := by
  intro next
  obtain ⟨ls, hlexes, hplaces⟩ := h next
  refine ⟨ws ++ ls, ?_, by simp [hws, hplaces]⟩
  rw [chars_text]
  exact hopen.append hlexes

/-- A text with no place in it may come between. -/
theorem Numbers.join (h : Numbers fs) (hsep : Separates s.toList ws) (hws : placesOf ws = [])
    (h' : Numbers gs) : Numbers (fs ++ .text s :: gs) := by
  intro next
  obtain ⟨ls, hlexes, hplaces⟩ := h next
  obtain ⟨ls', hlexes', hplaces'⟩ := h' (next + (valuesOf fs).length)
  refine ⟨ls ++ (ws ++ ls'), ?_, ?_⟩
  · rw [chars_append, chars_text]
    exact hlexes.append hsep hlexes'
  · simp [hws, hplaces, hplaces', List.range'_append_1]

theorem Numbers.enclose (h : Numbers fs) (hopen : Closes s.toList ws) (hws : placesOf ws = []) :
    Numbers (.text s :: fs ++ [.text ")"]) :=
  (h.after hopen hws).join separates_rightParen rfl numbers_nil

theorem Numbers.parenthesized (h : Numbers fs) (needed : Bool) :
    Numbers (parenthesized needed fs) := by
  have hopen : Closes "(".toList [.leftParen] := fun _ _ => rfl
  cases needed with
  | false => exact h
  | true => exact h.enclose hopen rfl

theorem Numbers.conjunction {fss : List (List Fragment)} (h : ∀ fs ∈ fss, Numbers fs) :
    Numbers (conjunction fss) := by
  induction fss with
  | nil => exact numbers_nil
  | cons fs fss ih =>
    obtain ⟨hfs, hfss⟩ := List.forall_mem_cons.mp h
    cases fss with
    | nil => exact hfs
    | cons gs fss => exact hfs.join (separates_word .and) rfl (ih hfss)

/-- It does not matter how texts are cut into fragments. -/
theorem Numbers.congr (h : Numbers fs) (hchars : ∀ next, chars next gs = chars next fs)
    (hvalues : valuesOf gs = valuesOf fs) : Numbers gs := by
  intro next
  rw [hchars, hvalues]
  exact h next

/-! ### Conditions -/

theorem numbers_operand (o : Operand) : Numbers o.fragments := by
  cases o with
  | column c => exact numbers_text (lexes_column c) rfl
  | value v => exact numbers_value v

theorem numbers_relation (r : Relation) : Numbers r.fragments := by
  have hopen : Closes (r.column.text ++ " " ++ r.op.symbol ++ " ").toList
      ([.name r.column.table, .dot, .name r.column.name] ++ [.comparison r.op]) := by
    simpa [String.append_assoc] using (lexes_column r.column).closes (separates_symbol r.op)
  exact (numbers_operand r.operand).after hopen rfl

theorem numbers_source (name : String) (join : Option Join) :
    Numbers [.text (nameText name ++ (join.map Join.text).getD "")] := by
  cases join with
  | none => exact numbers_text (by simpa using lexes_nameText name) rfl
  | some j => exact numbers_text (lexes_joined name j) rfl

theorem numbers_subquery (q : Subquery) : Numbers q.fragments := by
  have hconditions : Numbers (conjunction (q.conditions.map Relation.fragments)) :=
    Numbers.conjunction (by simpa using fun r _ => numbers_relation r)
  have hsource := (numbers_source q.source q.join).join (s := " WHERE ") (separates_word .where) rfl
    hconditions
  have hresult := (numbers_operand q.result).join (s := " FROM ") (separates_word .from) rfl hsource
  refine (hresult.after closes_select rfl).congr (fun next => ?_) ?_
  · simp [Subquery.fragments, chars_append]
  · simp [Subquery.fragments]

theorem numbers_leaf (leaf : Leaf) : Numbers leaf.fragments := by
  cases leaf with
  | relation r => exact numbers_relation r
  | inSubquery c q =>
    have hopen : Closes (c.text ++ " IN (").toList
        ([.name c.table, .dot, .name c.name] ++ [.word .in, .leftParen]) := by
      rw [String.toList_append]
      exact (lexes_column c).closes separates_in
    exact (numbers_subquery q).enclose hopen rfl
  | «exists» q =>
    have hopen : Closes "EXISTS(".toList [.word .exists, .leftParen] := fun _ _ => rfl
    exact (numbers_subquery q).enclose hopen rfl

theorem numbers_condition (c : Condition) : Numbers (Condition.fragments c) := by
  induction c with
  | atom leaf => exact numbers_leaf leaf
  | not c ih =>
    have hnot : Closes "NOT ".toList [.word .not] := fun _ _ => rfl
    exact (ih.parenthesized _).after hnot rfl
  | and c d ihc ihd =>
    exact (ihc.parenthesized _).join (separates_word .and) rfl (ihd.parenthesized _)
  | or c d ihc ihd =>
    exact (ihc.parenthesized _).join (separates_word .or) rfl (ihd.parenthesized _)

theorem numbers_select (q : Select) : Numbers q.fragments := by
  have hstar : Separates ".* FROM ".toList [.dot, .star, .word .from] :=
    Closes.separates (fun _ _ => rfl) rfl (by decide)
  have htables : Numbers [.text ("SELECT " ++ nameText q.source ++ ".* FROM " ++
      nameText q.source)] := by
    have hlexes := closes_select.append
      ((lexes_nameText q.source).append hstar (lexes_nameText q.source))
    exact numbers_text (by simpa using hlexes) rfl
  -- The owner comes first, so its value has the place 1, and the values of the condition follow.
  have hwhere : Numbers q.whereFragments := by
    refine Numbers.conjunction ?_
    cases q.condition with
    | none => simpa using numbers_relation q.owner
    | some c =>
      simpa using ⟨numbers_relation q.owner, (numbers_condition c).parenthesized _⟩
  have hselection := htables.join (s := " WHERE ") (separates_word .where) rfl hwhere
  unfold Select.fragments
  cases q.limit with
  | none => simpa using hselection
  | some n =>
    simpa using hselection.join (s := " LIMIT ") (separates_word .limit) rfl
      (numbers_value (.ubigint n))

/-- The places in a prepared text are numbered from one, and there are as many as values. -/
theorem lexemes?_prepared (q : Select) :
    ∃ ls, lexemes? q.prepared = some ls ∧ placesOf ls = List.range' 1 q.values.length := by
  obtain ⟨ls, hlexes, hplaces⟩ := numbers_select q 1
  exact ⟨ls, lexemes?_eq hlexes rfl, hplaces⟩

end Sql

namespace Schema

theorem valuesOf_testCondition (s : Schema) (t : Test) :
    valuesOf (Condition.fragments (s.testCondition t)) = t.values := by
  cases t with
  | text field value => cases field <;> rfl
  | date field bound => cases field <;> rfl
  | _ => rfl

/-- The values of a condition are those of the tests, from left to right. -/
theorem valuesOf_condition (s : Schema) (p : Predicate) :
    valuesOf (Condition.fragments (s.condition p)) = p.atoms.flatMap Test.values := by
  induction p with
  | atom t => simp [Formula.atoms, valuesOf_testCondition]
  | not p ih => simp [Condition.fragments, Formula.atoms, ih]
  | and p q ihp ihq => simp [Condition.fragments, Formula.atoms, ihp, ihq]
  | or p q ihp ihq => simp [Condition.fragments, Formula.atoms, ihp, ihq]

theorem sameText_testCondition (s : Schema) {t t' : Test} (h : t.SameShape t') :
    (s.testCondition t).SameText (s.testCondition t') := by
  cases h with
  | text field => cases field <;> exact ⟨rfl, rfl, rfl, rfl⟩
  | date field => cases field <;> exact ⟨rfl, rfl, rfl, rfl⟩
  | _ => exact ⟨rfl, rfl, rfl, rfl⟩

theorem sameText_condition (s : Schema) {p p' : Predicate} (h : p.SameShape p') :
    (s.condition p).SameText (s.condition p') := by
  induction h with
  | atom h => exact s.sameText_testCondition h
  | not _ ih => exact ih.not
  | and _ _ ihp ihq => exact ihp.and ihq
  | or _ _ ihp ihq => exact ihp.or ihq

/-- The values of a selection: the user, those of the tests from left to right, and the limit. -/
theorem values_selectTracks (s : Schema) (p : Predicate) (userId : Int) (limit : Option Nat) :
    (s.selectTracks (some p) userId limit).values =
      .bigint userId :: p.atoms.flatMap Test.values ++ limit.toList.map .ubigint := by
  rw [values_eq]
  cases limit <;>
    simp [selectTracks, Select.fragments, Select.whereFragments, conjunction, Relation.fragments,
      Column.isEqual, Operand.fragments, valuesOf_condition]

theorem prepared_eq_of_sameShape (s : Schema) {p p' : Predicate} (h : p.SameShape p')
    (userId userId' : Int) {limit limit' : Option Nat} (hlimit : limit.isSome = limit'.isSome) :
    (s.selectTracks (some p) userId limit).prepared =
      (s.selectTracks (some p') userId' limit').prepared := by
  have hcondition := s.sameText_condition h
  have hparens := map_text?_parenthesized hcondition.needsParens hcondition.fragments
  refine preparedFrom_congr ?_ 1
  cases limit <;> cases limit' <;>
    simp [selectTracks, Select.fragments, Select.whereFragments, conjunction, Relation.fragments,
      Column.isEqual, Operand.fragments, Fragment.text?, hparens] at hlimit ⊢

/-- **The prepared text holds no data, and its places match the values.** Predicates of the same
shape have the same prepared text, whatever the user is and the limit, if there is one. The values
are the user, those of the tests from left to right, and the limit; their places are numbered in the
order in which they stand in the text, which has no others. -/
theorem prepared_selectTracks (s : Schema) :
    (∀ (p p' : Predicate) (userId userId' : Int) (limit limit' : Option Nat), p.SameShape p' →
      limit.isSome = limit'.isSome →
        (s.selectTracks (some p) userId limit).prepared =
          (s.selectTracks (some p') userId' limit').prepared) ∧
    ∀ (p : Predicate) (userId : Int) (limit : Option Nat),
      (s.selectTracks (some p) userId limit).values =
        .bigint userId :: p.atoms.flatMap Test.values ++ limit.toList.map .ubigint ∧
      ∃ ls, lexemes? (s.selectTracks (some p) userId limit).prepared = some ls ∧
        placesOf ls = List.range' 1 (s.selectTracks (some p) userId limit).values.length := by
  constructor
  · intro p p' userId userId' limit limit' h hlimit
    exact s.prepared_eq_of_sameShape h userId userId' hlimit
  · intro p userId limit
    exact ⟨s.values_selectTracks p userId limit, lexemes?_prepared _⟩

/-- A text that looks like a place and the end of a literal is a value like any other. -/
theorem prepared_selectTracks_label :
    ∃ p p' : Predicate, p = .or (.atom (.text .label "rock")) (.not (.atom .unlabeled)) ∧
      p' = .or (.atom (.text .label "$1' --")) (.not (.atom .unlabeled)) ∧ p.SameShape p' ∧
      (Schema.standard.selectTracks (some p) 1 (some 5)).prepared =
        (Schema.standard.selectTracks (some p') 2 (some 7)).prepared := by
  have h : Predicate.SameShape (.or (.atom (.text .label "rock")) (.not (.atom .unlabeled)))
      (.or (.atom (.text .label "$1' --")) (.not (.atom .unlabeled))) :=
    .or (.atom (.text .label _ _)) (.not (.atom .unlabeled))
  exact ⟨_, _, rfl, rfl, h, (prepared_selectTracks .standard).1 _ _ 1 2 _ _ h rfl⟩

end Schema

end TrackCriteria
