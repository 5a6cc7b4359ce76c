import TrackCriteria.Proofs.Sql.Phrase

/-!
# Fragments as phrases

`Prints level fs P` says that the fragments `fs` are a phrase of the level wherever they stand in a
query, and that `P` holds of its term once the values are put in the places. Phrases are put
together as their fragments are: with a text between two of them (`Prints.join`), with a text in
front (`Prints.after`), or with parentheses around them (`Prints.enclose`).
-/

namespace TrackCriteria.Sql

/-! ### Fragments -/

/-- The characters of fragments, with places counted from `next`. -/
def chars (next : Nat) (fs : List Fragment) : List Char :=
  (preparedFrom next fs).toList

/-- The values among fragments. -/
def valuesOf (fs : List Fragment) : List Value :=
  fs.filterMap fun
    | .text _ => none
    | .value v => some v

variable {next : Nat} {fs gs : List Fragment} {s : String} {v : Value}

@[simp]
theorem chars_nil : chars next [] = [] := rfl

@[simp]
theorem chars_text : chars next (.text s :: fs) = s.toList ++ chars next fs := by
  rw [chars, preparedFrom, String.toList_append, chars]

@[simp]
theorem chars_value :
    chars next (.value v :: fs) = ("$" ++ next.repr).toList ++ chars (next + 1) fs := by
  rw [chars, preparedFrom, String.toList_append, chars]

@[simp]
theorem valuesOf_nil : valuesOf [] = [] := rfl

@[simp]
theorem valuesOf_text : valuesOf (.text s :: fs) = valuesOf fs := rfl

@[simp]
theorem valuesOf_value : valuesOf (.value v :: fs) = v :: valuesOf fs := rfl

@[simp]
theorem valuesOf_append : valuesOf (fs ++ gs) = valuesOf fs ++ valuesOf gs :=
  List.filterMap_append

@[simp]
theorem valuesOf_parenthesized (needed : Bool) :
    valuesOf (parenthesized needed fs) = valuesOf fs := by
  cases needed <;> simp [parenthesized]

theorem chars_append :
    chars next (fs ++ gs) = chars next fs ++ chars (next + (valuesOf fs).length) gs := by
  induction fs generalizing next with
  | nil => rfl
  | cons f fs ih =>
    cases f with
    | text s => simp [ih]
    | value v => simp [ih, Nat.add_assoc, Nat.add_comm 1]

theorem chars_append_after (before : List Value) (fs gs : List Fragment) :
    chars (before.length + 1) (fs ++ gs) =
      chars (before.length + 1) fs ++ chars ((before ++ valuesOf fs).length + 1) gs := by
  rw [chars_append, List.length_append, Nat.add_right_comm]

/-! ### The texts between phrases -/

theorem separates_rightParen : Separates ")".toList [.rightParen] :=
  Closes.separates (fun _ _ => rfl) rfl (by decide)

theorem separates_symbol (op : Comparison) :
    Separates (" " ++ op.symbol ++ " ").toList [.comparison op] := by
  cases op <;> exact Closes.separates (fun _ _ => rfl) rfl (by decide)

/-- A word between spaces. -/
theorem separates_word (w : Word) : Separates (" " ++ w.text ++ " ").toList [.word w] := by
  cases w <;> exact Closes.separates (fun _ _ => rfl) rfl (by decide)

theorem separates_in : Separates " IN (".toList [.word .in, .leftParen] :=
  Closes.separates (fun _ _ => rfl) rfl (by decide)

theorem closes_select : Closes "SELECT ".toList [.word .select] :=
  fun _ _ => rfl

/-! ### Fragments as phrases -/

/-- The fragments print a phrase of a level, wherever they stand among other fragments, and the
phrase has a property once the values are put in its places. -/
def Prints (level : Level) (fs : List Fragment) (P : List Value → Term → Prop) : Prop :=
  ∀ before : List Value, ∃ ls t, Lexes (chars (before.length + 1) fs) ls ∧ Phrase level ls t ∧
    ∀ after, P (before ++ (valuesOf fs ++ after)) t

variable {level level' level'' : Level} {P Q R : List Value → Term → Prop} {sep ws : List Lexeme}

/-- A phrase may be one of another level, and have another property. -/
theorem Prints.lift (h : Prints level fs P)
    (hlevel : ∀ ls t, Phrase level ls t → Phrase level' ls t) (hP : ∀ vs t, P vs t → Q vs t) :
    Prints level' fs Q := by
  intro before
  obtain ⟨ls, t, hlexes, hphrase, hholds⟩ := h before
  exact ⟨ls, t, hlexes, hlevel ls t hphrase, fun after => hP _ _ (hholds after)⟩

theorem Prints.toLevel (h : Prints level fs P)
    (hlevel : ∀ ls t, Phrase level ls t → Phrase level' ls t) : Prints level' fs P :=
  h.lift hlevel fun _ _ hP => hP

/-- It does not matter how texts are cut into fragments. -/
theorem Prints.congr (h : Prints level fs P) (hchars : ∀ next, chars next gs = chars next fs)
    (hvalues : valuesOf gs = valuesOf fs) : Prints level gs P := by
  intro before
  rw [hchars, hvalues]
  exact h before

/-- Two phrases with a text between them. -/
theorem Prints.join (join : Term → Term → Term) (h : Prints level fs P) (h' : Prints level' gs Q)
    (hsep : Separates s.toList ws)
    (hphrase : ∀ ls ls' t t', Phrase level ls t → Phrase level' ls' t' →
      Phrase level'' (ls ++ (ws ++ ls')) (join t t'))
    (hR : ∀ vs t t', P vs t → Q vs t' → R vs (join t t')) :
    Prints level'' (fs ++ .text s :: gs) R := by
  intro before
  obtain ⟨ls, t, hlexes, ht, hP⟩ := h before
  obtain ⟨ls', t', hlexes', ht', hQ⟩ := h' (before ++ valuesOf fs)
  refine ⟨_, _, ?_, hphrase ls ls' t t' ht ht', fun after => hR _ _ _ ?_ ?_⟩
  · rw [chars_append_after, chars_text]
    exact hlexes.append hsep hlexes'
  · rw [valuesOf_append, List.append_assoc]
    exact hP _
  · rw [valuesOf_append, valuesOf_text, List.append_assoc, ← List.append_assoc before]
    exact hQ after

/-- A phrase after a text. -/
theorem Prints.after (f : Term → Term) (h : Prints level fs P) (hopen : Closes s.toList ws)
    (hphrase : ∀ ls t, Phrase level ls t → Phrase level' (ws ++ ls) (f t))
    (hQ : ∀ vs t, P vs t → Q vs (f t)) : Prints level' (.text s :: fs) Q := by
  intro before
  obtain ⟨ls, t, hlexes, ht, hP⟩ := h before
  refine ⟨_, _, ?_, hphrase ls t ht, fun after => hQ _ _ (hP after)⟩
  rw [chars_text]
  exact hopen.append hlexes

/-- A phrase between a text and a closing parenthesis. -/
theorem Prints.enclose (f : Term → Term) (h : Prints level fs P) (hopen : Closes s.toList ws)
    (hphrase : ∀ ls t, Phrase level ls t → Phrase level' (ws ++ (ls ++ [.rightParen])) (f t))
    (hQ : ∀ vs t, P vs t → Q vs (f t)) :
    Prints level' (.text s :: fs ++ [.text ")"]) Q := by
  intro before
  obtain ⟨ls, t, hlexes, ht, hP⟩ := h before
  refine ⟨_, _, ?_, hphrase ls t ht, fun after => hQ _ _ ?_⟩
  · rw [List.cons_append, chars_text, chars_append, chars_text, chars_nil]
    exact hopen.append (hlexes.append separates_rightParen lexes_nil)
  · rw [List.cons_append, valuesOf_text, valuesOf_append, List.append_assoc]
    exact hP _

/-- What is put in parentheses where it needs them is a phrase of any level above. -/
theorem Prints.parenthesized {needed : Bool} (h : Prints .disjunction fs P)
    (hlevel : ∀ ls t, Phrase .primary ls t → Phrase level ls t)
    (hbare : needed = false → Prints level fs P) :
    Prints level (parenthesized needed fs) P := by
  cases needed with
  | false => exact hbare rfl
  | true =>
    have hopen : Closes "(".toList [.leftParen] := fun _ _ => rfl
    exact h.enclose id hopen (fun ls t ht => hlevel _ _ (.group ht)) fun _ _ hP => hP

/-- A selection of a result from a source with a condition. -/
theorem Prints.select {hs : List Fragment} {S : List Value → Term → Prop}
    (h : Prints .result fs P) (h' : Prints .source gs Q) (h'' : Prints .disjunction hs R)
    (hS : ∀ vs t t' t'', P vs t → Q vs t' → R vs t'' → S vs (.select t t' t'')) :
    Prints .selection
      (.text "SELECT " :: (fs ++ .text " FROM " :: (gs ++ .text " WHERE " :: hs))) S := by
  intro before
  obtain ⟨ls, t, hlexes, ht, hP⟩ := h before
  -- The places of a part go on from those of the parts in front of it.
  obtain ⟨ls', t', hlexes', ht', hQ⟩ := h' (before ++ valuesOf fs)
  obtain ⟨ls'', t'', hlexes'', ht'', hR⟩ := h'' (before ++ valuesOf fs ++ valuesOf gs)
  refine ⟨_, _, ?_, .select ht ht' ht'', fun after => hS _ _ _ _ ?_ ?_ ?_⟩
  · have hall := closes_select.append
      (hlexes.append (separates_word .from) (hlexes'.append (separates_word .where) hlexes''))
    rw [chars_text, chars_append_after, chars_text, chars_append_after, chars_text]
    exact hall
  · -- Each part is read with the values of the whole, of which its own come after `before`.
    simpa using hP (valuesOf gs ++ (valuesOf hs ++ after))
  · simpa using hQ (valuesOf hs ++ after)
  · simpa using hR after

end TrackCriteria.Sql
