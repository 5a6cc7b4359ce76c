import TrackCriteria.Proofs.Sql.Fragment
import TrackCriteria.Sql.Selection

/-!
# Queries are read back

The prepared text of a selection is read back as what it was written for: the rows of the owner that
satisfy the condition (`Schema.reads_selectTracks`). Nothing in a name or in a value can change
that, since names are read back whole (`lexes_nameText`) and values are places.

A condition is a phrase of the level that its outermost operator has (`prints_condition`), so an
operand needs parentheses exactly where the grammar asks for a phrase of a level below.
-/

namespace TrackCriteria.Sql

variable {fs : List Fragment} {c : Column} {v : Value}

/-! ### Relations -/

theorem prints_column (c : Column) :
    Prints .reference [.text c.text] fun _ t => t = .column c := by
  intro before
  refine ⟨_, _, ?_, .column c, fun _ => rfl⟩
  rw [chars_text, chars_nil, List.append_nil]
  exact lexes_column c

/-- A value is a place, at which the value stands. -/
theorem prints_value (v : Value) :
    Prints .reference [.value v] fun vs t => t.operand? vs = some (.value v) := by
  intro before
  refine ⟨_, _, ?_, .place (before.length + 1), fun after => ?_⟩
  · rw [chars_value, chars_nil, List.append_nil]
    exact lexes_place _
  · simp [Term.operand?]

theorem prints_operand (o : Operand) :
    Prints .reference o.fragments fun vs t => t.operand? vs = some o := by
  cases o with
  | column c =>
    refine (prints_column c).lift (fun _ _ h => h) ?_
    rintro vs _ rfl
    rfl
  | value v => exact prints_value v

theorem prints_relation (r : Relation) :
    Prints .test r.fragments fun vs t => t.relation? vs = some r := by
  have h : Prints .test ([.text r.column.text] ++
      .text (" " ++ r.op.symbol ++ " ") :: r.operand.fragments)
      fun vs t => t.relation? vs = some r := by
    refine (prints_column r.column).join (.comparison r.op) (prints_operand r.operand)
      (separates_symbol r.op) ?_ ?_
    · -- Both sides are terms without operators, and the comparison of them is a test.
      intro ls ls' t t' ht ht'
      exact .comparison r.op (.primary ht) (.primary ht')
    · rintro vs _ t rfl ht
      rw [Term.relation?, ht]
      rfl
  refine h.congr (fun next => ?_) ?_
  · simp [Relation.fragments]
  · simp [Relation.fragments]

/-! ### Subqueries -/

theorem relations?_of_relation? {vs : List Value} {t : Term} {r : Relation}
    (h : t.relation? vs = some r) : t.relations? vs = some [r] := by
  cases t with
  | comparison op left right => exact congrArg (Option.map _) h
  | _ => cases h

theorem conjunction_cons_cons (fs gs : List Fragment) (rest : List (List Fragment)) :
    conjunction (fs :: gs :: rest) = conjunction ((fs ++ .text " AND " :: gs) :: rest) := by
  cases rest with
  | nil => rfl
  | cons hs rest => simp [conjunction]

/-- Relations that all have to hold are a chain, which grows at its end. -/
theorem prints_conjunction {fs : List Fragment} {rs : List Relation}
    (h : Prints .conjunction fs fun vs t => t.relations? vs = some rs) (rs' : List Relation) :
    Prints .conjunction (conjunction (fs :: rs'.map Relation.fragments))
      fun vs t => t.relations? vs = some (rs ++ rs') := by
  induction rs' generalizing fs rs with
  | nil =>
    rw [List.append_nil]
    exact h
  | cons r rs' ih =>
    -- One relation is taken from the rest into the chain, where it is the right operand.
    have hlonger : Prints .conjunction (fs ++ .text " AND " :: r.fragments)
        fun vs t => t.relations? vs = some (rs ++ [r]) := by
      refine h.join .and (prints_relation r) (separates_word .and) ?_ ?_
      · intro ls ls' t t' ht ht'
        exact .and ht (.operand ht')
      · intro vs t t' ht ht'
        rw [Term.relations?, ht, ht']
        rfl
    rw [List.map_cons, conjunction_cons_cons]
    have hrest := ih hlonger
    rwa [List.append_assoc, List.singleton_append] at hrest

theorem Join.toList_text (j : Join) :
    j.text.toList = " INNER JOIN ".toList ++ ((nameText j.table).toList ++
      (" ON ".toList ++ (j.left.text.toList ++ (" = ".toList ++ j.right.text.toList)))) := by
  unfold Join.text
  simp only [String.toList_append, List.append_assoc]

/-- The lexemes of two tables that are joined. -/
def joinedLexemes (name : String) (j : Join) : List Lexeme :=
  [.name name, .word .inner, .word .join, .name j.table, .word .on, .name j.left.table, .dot,
    .name j.left.name, .comparison .eq, .name j.right.table, .dot, .name j.right.name]

theorem lexes_joined (name : String) (j : Join) :
    Lexes (nameText name ++ j.text).toList (joinedLexemes name j) := by
  have hjoin : Separates " INNER JOIN ".toList [.word .inner, .word .join] :=
    Closes.separates (fun _ _ => rfl) rfl (by decide)
  have hon : Separates " ON ".toList [.word .on] :=
    Closes.separates (fun _ _ => rfl) rfl (by decide)
  have hequals : Separates " = ".toList [.comparison .eq] := separates_symbol .eq
  have hcondition := (lexes_column j.left).append hequals (lexes_column j.right)
  rw [String.toList_append, Join.toList_text]
  exact (lexes_nameText name).append hjoin ((lexes_nameText j.table).append hon hcondition)

theorem prints_source (name : String) (join : Option Join) :
    Prints .source [.text (nameText name ++ (join.map Join.text).getD "")]
      fun _ t => t.tables? = some (name, join) := by
  intro before
  rw [chars_text, chars_nil, List.append_nil]
  cases join with
  | none =>
    refine ⟨_, _, ?_, .table name, fun _ => rfl⟩
    rw [Option.map_none, Option.getD_none, String.append_empty]
    exact lexes_nameText name
  | some j =>
    -- The condition of a join is a whole disjunction to the reader, of one equation.
    have htest := Phrase.comparison .eq (.primary (.column j.left)) (.primary (.column j.right))
    exact ⟨_, _, lexes_joined name j,
      .joined name j.table (.disjunction (.conjunction (.operand htest))), fun _ => rfl⟩

/-- A subquery with a condition, as it has to have one after `WHERE`. -/
theorem prints_subquery {q : Subquery} (h : q.conditions ≠ []) :
    Prints .selection q.fragments fun vs t => t.subquery? vs = some q := by
  obtain ⟨result, source, join, conditions⟩ := q
  obtain ⟨r, rs, rfl⟩ := List.exists_cons_of_ne_nil h
  have hfirst : Prints .conjunction r.fragments fun vs t => t.relations? vs = some [r] :=
    (prints_relation r).lift (fun _ _ ht => .conjunction (.operand ht))
      fun _ _ => relations?_of_relation?
  -- The chain starts with the first relation. An empty one would have nothing behind `WHERE`.
  have hconditions := (prints_conjunction hfirst rs).toLevel fun _ _ => .disjunction
  have hresult := (prints_operand result).toLevel fun _ _ => .result
  have hmeaning : ∀ vs t t' t'', t.operand? vs = some result → t'.tables? = some (source, join) →
      t''.relations? vs = some ([r] ++ rs) →
        (Term.select t t' t'').subquery? vs = some ⟨result, source, join, r :: rs⟩ := by
    intro vs t t' t'' hP hQ hR
    rw [Term.subquery?, hP, hQ, hR]
    rfl
  have hselect := hresult.select (prints_source source join) hconditions
    (S := fun vs t => t.subquery? vs = some ⟨result, source, join, r :: rs⟩) hmeaning
  refine hselect.congr (fun next => ?_) ?_
  · simp [Subquery.fragments, chars_append]
  · simp [Subquery.fragments]

/-! ### Conditions -/

/-- Whether the atom can be written: the conditions of a subquery are not empty. -/
def Leaf.IsWritable : Leaf → Prop
  | .relation _ => True
  | .inSubquery _ q => q.conditions ≠ []
  | .exists q => q.conditions ≠ []

theorem condition?_of_relation? {vs : List Value} {t : Term} {r : Relation}
    (h : t.relation? vs = some r) : t.condition? vs = some (.atom (.relation r)) := by
  cases t with
  | comparison op left right => exact congrArg (Option.map _) h
  | _ => cases h

theorem prints_leaf {leaf : Leaf} (h : leaf.IsWritable) :
    Prints .test leaf.fragments fun vs t => t.condition? vs = some (.atom leaf) := by
  cases leaf with
  | relation r =>
    exact (prints_relation r).lift (fun _ _ ht => ht) fun _ _ => condition?_of_relation?
  -- A subquery stands in the parenthesis that `IN (` or `EXISTS(` has opened.
  | inSubquery c q =>
    have hopen : Closes (c.text ++ " IN (").toList
        ([.name c.table, .dot, .name c.name] ++ [.word .in, .leftParen]) := by
      rw [String.toList_append]
      exact (lexes_column c).closes separates_in
    refine (prints_subquery h).enclose (.member (.column c)) hopen ?_ ?_
    · intro ls t ht
      exact .member (.primary (.column c)) ht
    · intro vs t ht
      rw [Term.condition?, ht]
      rfl
  | «exists» q =>
    have hopen : Closes "EXISTS(".toList [.word .exists, .leftParen] := fun _ _ => rfl
    refine (prints_subquery h).enclose .exists hopen ?_ ?_
    · intro ls t ht
      exact .test (.existence ht)
    · intro vs t ht
      rw [Term.condition?, ht]
      rfl

/-- A condition is a phrase of the level that its outermost operator has. -/
theorem prints_condition {c : Condition} (h : ∀ leaf ∈ c.atoms, leaf.IsWritable) :
    Prints .disjunction (Condition.fragments c) (fun vs t => t.condition? vs = some c) ∧
      (needsParens c = false →
        Prints .test (Condition.fragments c) fun vs t => t.condition? vs = some c) ∧
      (needsParensLeftOfAnd c = false →
        Prints .conjunction (Condition.fragments c) fun vs t => t.condition? vs = some c) := by
  -- By induction on the condition. Each level is as tight as its operator: an operand that binds
  -- less tightly than its place asks for has parentheses, and any other one is of the level of its
  -- place.
  induction c with
  | atom leaf =>
    have htest := prints_leaf (List.forall_mem_singleton.mp h)
    have hconjunction := htest.toLevel fun _ _ ht => .conjunction (.operand ht)
    exact ⟨hconjunction.toLevel fun _ _ => .disjunction, fun _ => htest,
      fun _ => hconjunction⟩
  | not c ih =>
    -- A negation is an operand but no test, so it is in parentheses next to `AND` and `OR`.
    obtain ⟨hany, htest, -⟩ := ih h
    have hoperand := hany.parenthesized (fun _ _ => .test) htest
    have hnot : Closes "NOT ".toList [.word .not] := fun _ _ => rfl
    refine ⟨hoperand.after .not hnot (fun ls t ht => ?_) fun vs t ht => ?_, by rintro ⟨⟩,
      by rintro ⟨⟩⟩
    · exact .disjunction (.conjunction (.not (.operand ht)))
    · rw [Term.condition?, ht]
      rfl
  | and c d ihc ihd =>
    obtain ⟨hc, hd⟩ := List.forall_mem_append.mp h
    obtain ⟨hany, -, hconjunction⟩ := ihc hc
    obtain ⟨hany', htest', -⟩ := ihd hd
    -- Conjunctions group to the left, so a conjunction needs no parentheses there. On the right it
    -- does.
    have hleft := hany.parenthesized (fun _ _ ht => .conjunction (.operand (.test ht)))
      hconjunction
    have hright := hany'.parenthesized (fun _ _ => .test) htest'
    have hand : Prints .conjunction (Condition.fragments (.and c d))
        fun vs t => t.condition? vs = some (.and c d) := by
      refine hleft.join .and hright (separates_word .and) (fun ls ls' t t' ht ht' => ?_)
        fun vs t t' ht ht' => ?_
      · exact .and ht (.operand ht')
      · rw [Term.condition?, ht, ht']
        rfl
    exact ⟨hand.toLevel fun _ _ => .disjunction, by rintro ⟨⟩, fun _ => hand⟩
  | or c d ihc ihd =>
    obtain ⟨hc, hd⟩ := List.forall_mem_append.mp h
    obtain ⟨hany, -, -⟩ := ihc hc
    obtain ⟨hany', htest', -⟩ := ihd hd
    -- A disjunction may stand on the left of another one as it is.
    have hleft := hany.parenthesized
      (fun _ _ ht => .disjunction (.conjunction (.operand (.test ht))))
      fun (_ : needsParensLeftOfOr c = false) => hany
    have hright := hany'.parenthesized (fun _ _ => .test) htest'
    have hor : Prints .disjunction (Condition.fragments (.or c d))
        fun vs t => t.condition? vs = some (.or c d) := by
      refine hleft.join .or hright (separates_word .or) (fun ls ls' t t' ht ht' => ?_)
        fun vs t t' ht ht' => ?_
      · exact .or ht (.conjunction (.operand ht'))
      · rw [Term.condition?, ht, ht']
        rfl
    exact ⟨hor, by rintro ⟨⟩, by rintro ⟨⟩⟩

/-! ### Selections -/

section Select

variable {source : String} {condition : Condition}

/-- The fragments of a selection up to its limit. -/
def selectionFragments (source : String) (c : Column) (v : Value) (fs : List Fragment) :
    List Fragment :=
  .text ("SELECT " ++ nameText source ++ ".* FROM " ++ nameText source) :: .text " WHERE " ::
    ((c.isEqual v).fragments ++ .text " AND " :: fs)

/-- The lexemes of a selection up to its limit. -/
def selectionLexemes (source : String) (c : Column) (ls : List Lexeme) : List Lexeme :=
  [.word .select, .name source, .dot, .star, .word .from, .name source, .word .where,
    .name c.table, .dot, .name c.name, .comparison .eq, .place 1, .word .and] ++ ls

theorem valuesOf_selectionFragments :
    valuesOf (selectionFragments source c v fs) = v :: valuesOf fs := by
  simp [selectionFragments, Relation.fragments, Column.isEqual, Operand.fragments]

theorem lexes_selectionFragments (source : String) (c : Column) (v : Value) {ls : List Lexeme}
    (h : Lexes (chars 2 fs) ls) :
    Lexes (chars 1 (selectionFragments source c v fs)) (selectionLexemes source c ls) := by
  have hstar : Separates ".* FROM ".toList [.dot, .star, .word .from] :=
    Closes.separates (fun _ _ => rfl) rfl (by decide)
  have howner := (lexes_column c).append (separates_symbol .eq) (lexes_place 1)
  have htables := (lexes_nameText source).append hstar (lexes_nameText source)
  have hall := closes_select.append
    (htables.append (separates_word .where) (howner.append (separates_word .and) h))
  simpa [selectionFragments, Relation.fragments, Column.isEqual, Operand.fragments,
    selectionLexemes, Word.text] using hall

/-- The limit stands at the place after all other values. -/
theorem lexes_limit {ls : List Lexeme} (h : Lexes (chars 1 (selectionFragments source c v fs)) ls)
    (n : Nat) :
    Lexes (chars 1 (selectionFragments source c v fs ++ [.text " LIMIT ", .value (.ubigint n)]))
      (ls ++ [.word .limit, .place ((valuesOf fs).length + 2)]) := by
  rw [chars_append, valuesOf_selectionFragments, chars_text, chars_value, chars_nil,
    List.append_nil, List.length_cons, Nat.add_comm 1]
  exact h.append (separates_word .limit) (lexes_place _)

theorem phrase_selection (source : String) (c : Column) {ls : List Lexeme} {t : Term}
    (h : Phrase .operand ls t) :
    Phrase .selection (selectionLexemes source c ls) (.select (.star source) (.table source)
      (.and (.comparison .eq (.column c) (.place 1)) t)) := by
  have howner := Phrase.comparison .eq (.primary (.column c)) (.primary (.place 1))
  exact .select (.star source) (.table source)
    (.disjunction (.and (.conjunction (.operand howner)) h))

theorem values_eq (q : Select) : q.values = valuesOf q.fragments := rfl

theorem read?_of_lexes {q : Select} {ls : List Lexeme} {statement : Statement}
    (h : Lexes (chars 1 q.fragments) ls) (hls : Statement.ofLexemes? ls = some statement) :
    Statement.read? q.prepared = some statement := by
  have hlexemes : lexemes? q.prepared = some ls := lexemes?_eq h rfl
  rw [Statement.read?, hlexemes]
  exact hls

/-- The prepared text of a selection with a condition is read back as the conjunction of the
comparison of the owner and the condition. -/
theorem read?_prepared {q : Select} (howner : q.owner = c.isEqual v)
    (hcondition : q.condition = some condition)
    (hwritable : ∀ leaf ∈ condition.atoms, leaf.IsWritable) :
    ∃ tree bound, Statement.read? q.prepared = some ⟨.select (.star q.source) (.table q.source)
        (.and (.comparison .eq (.column c) (.place 1)) tree), bound⟩ ∧
      q.values[0]? = some v ∧ tree.condition? q.values = some condition ∧
      bound.map (·.operand? q.values) = q.limit.map fun n => some (.value (.ubigint n)) := by
  obtain ⟨hany, htest, -⟩ := prints_condition hwritable
  obtain ⟨ls, tree, hlexes, hphrase, htree⟩ := hany.parenthesized (fun _ _ => .test) htest [v]
  have hall := lexes_selectionFragments q.source c v hlexes
  -- The reader takes the selection to its end, or to the word `LIMIT` behind it.
  obtain ⟨hunlimited, hlimited⟩ := (phrase_selection q.source c (.operand hphrase)).ofLexemes?
  obtain ⟨source, owner, _, limit⟩ := q
  dsimp only at howner hcondition
  subst howner hcondition
  generalize hfs : parenthesized (needsParens condition) (Condition.fragments condition) = fs
    at hall htree
  rw [values_eq]
  cases limit with
  | none =>
    -- No value comes after those of the condition.
    have hfragments : Select.fragments ⟨source, c.isEqual v, some condition, none⟩ =
        selectionFragments source c v fs := by
      rw [← hfs]
      exact List.append_nil _
    have hread := read?_of_lexes (q := ⟨source, c.isEqual v, some condition, none⟩)
      (hfragments ▸ hall) hunlimited
    have hmeaning := htree []
    rw [List.append_nil] at hmeaning
    rw [hfragments, valuesOf_selectionFragments]
    exact ⟨tree, none, hread, rfl, hmeaning, rfl⟩
  | some n =>
    -- The limit is the last value. One place in front of its own has the owner, the others the
    -- condition.
    have hfragments : Select.fragments ⟨source, c.isEqual v, some condition, some n⟩ =
        selectionFragments source c v fs ++ [.text " LIMIT ", .value (.ubigint n)] := by
      rw [← hfs]
      rfl
    have hread := read?_of_lexes (q := ⟨source, c.isEqual v, some condition, some n⟩)
      (hfragments ▸ lexes_limit hall n) (hlimited _)
    rw [hfragments, valuesOf_append, valuesOf_selectionFragments]
    refine ⟨tree, some (.place ((valuesOf fs).length + 2)), hread, rfl, htree _, ?_⟩
    simp [Term.operand?]

end Select

end TrackCriteria.Sql

namespace TrackCriteria.Schema

open Sql

/-! ### Selections of tracks -/

theorem isWritable_testCondition (s : Schema) (test : Test) :
    ∀ leaf ∈ (s.testCondition test).atoms, leaf.IsWritable := by
  cases test with
  | text field value =>
    cases field <;>
      simp [testCondition, Formula.atoms, Leaf.IsWritable, linksTo, albumWhere]
  | date field bound =>
    cases field <;> simp [testCondition, Formula.atoms, Leaf.IsWritable, albumWhere]
  | _ => simp [testCondition, Formula.atoms, Leaf.IsWritable, links]

theorem isWritable_condition (s : Schema) (p : Predicate) :
    ∀ leaf ∈ (s.condition p).atoms, leaf.IsWritable := by
  induction p with
  | atom test => exact s.isWritable_testCondition test
  | not p ih => exact ih
  | and p q ihp ihq => exact List.forall_mem_append.mpr ⟨ihp, ihq⟩
  | or p q ihp ihq => exact List.forall_mem_append.mpr ⟨ihp, ihq⟩

/-- The prepared text is read back as the selection of the tracks of the user, the first value, that
satisfy the condition of the predicate. -/
theorem reads_selectTracks (s : Schema) (p : Predicate) (userId : Int) (limit : Option Nat) :
    ∃ tree bound, Statement.read? (s.selectTracks (some p) userId limit).prepared =
        some ⟨.select (.star s.tracks.table) (.table s.tracks.table)
          (.and (.comparison .eq (.column (s.track (·.userId))) (.place 1)) tree), bound⟩ ∧
      (s.selectTracks (some p) userId limit).values[0]? = some (.bigint userId) ∧
      tree.condition? (s.selectTracks (some p) userId limit).values = some (s.condition p) ∧
      bound.map (·.operand? (s.selectTracks (some p) userId limit).values) =
        limit.map fun n => some (.value (.ubigint n)) := by
  exact read?_prepared rfl rfl (s.isWritable_condition p)

end TrackCriteria.Schema
