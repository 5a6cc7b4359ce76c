import TrackCriteria.Proofs.Json.Reader

/-!
# Values that are passed over

A value that no one asked for is passed over whatever it is and however deep it is nested
(`reads_skip`). What a value is, is said of its tokens by a grammar (`HasShape`): this also covers
what is never written, such as numbers, `null` and strings that denote no text. Passing over goes on
with one token at a time and keeps the containers that have not ended, so each part of a value is
said to lead from the place where it may start to the place after it, in any containers
(`HasShape.skipFrom_eq`).
-/

namespace TrackCriteria.Json

/-! ### The grammar of values -/

/-- The parts of documents that the grammar is about: a value, one or more items with commas between
them, and one or more members with commas between them. -/
inductive Shape where
  | value
  | items
  | members

/-- Whether tokens make up a part of a document. -/
inductive HasShape : Shape → List Token → Prop where
  | null : HasShape .value [.null]
  | bool (value : Bool) : HasShape .value [.bool value]
  | number : HasShape .value [.number]
  | string (text : Option String) : HasShape .value [.string text]
  | emptyArray : HasShape .value [.leftBracket, .rightBracket]
  | array {ts : List Token} (h : HasShape .items ts) :
      HasShape .value (.leftBracket :: (ts ++ [.rightBracket]))
  | emptyObject : HasShape .value [.leftBrace, .rightBrace]
  | object {ts : List Token} (h : HasShape .members ts) :
      HasShape .value (.leftBrace :: (ts ++ [.rightBrace]))
  | item {ts : List Token} (h : HasShape .value ts) : HasShape .items ts
  | moreItems {ts us : List Token} (h : HasShape .value ts) (hmore : HasShape .items us) :
      HasShape .items (ts ++ .comma :: us)
  | member (name : Option String) {ts : List Token} (h : HasShape .value ts) :
      HasShape .members (.string name :: .colon :: ts)
  | moreMembers (name : Option String) {ts us : List Token} (h : HasShape .value ts)
      (hmore : HasShape .members us) :
      HasShape .members (.string name :: .colon :: (ts ++ .comma :: us))

/-- Whether tokens make up a value. -/
abbrev IsValue (ts : List Token) : Prop :=
  HasShape .value ts

/-! ### Passing over -/

namespace Reader

/-- What follows a value that is passed over, from some progress on. -/
def resume : Progress → List Token → Except Fault (List Token)
  | .inside place stack, ts => skipFrom place stack ts
  | .past, ts => .ok ts

theorem skipFrom_cons {place : Place} {stack : List Container} {t : Token} {progress : Progress}
    (h : pass place stack t = some progress) (ts : List Token) :
    skipFrom place stack (t :: ts) = resume progress ts := by
  rw [skipFrom, h]
  cases progress <;> rfl

/-- Where a part of a document may start inside of some containers. -/
def Starts : Shape → Place → List Container → Prop
  | .value, place, _ => place = .value ∨ place = .firstItem
  | .items, place, stack => (place = .value ∨ place = .firstItem) ∧ stack.head? = some .array
  | .members, place, stack => (place = .name ∨ place = .firstMember) ∧ stack.head? = some .object

/-- What starts a value may stand at both places where a value may start. -/
theorem pass_eq_startValue {place : Place} {stack : List Container} {t : Token}
    (hplace : place = .value ∨ place = .firstItem) (ht : t ≠ .rightBracket) :
    pass place stack t = startValue stack t := by
  rcases hplace with rfl | rfl
  · rfl
  · -- Only the bracket that ends an empty array is treated in its own way.
    cases t with
    | rightBracket => exact absurd rfl ht
    | _ =>
      cases stack with
      | nil => rfl
      | cons container stack => cases container <;> rfl

/-- A bracket starts an array where a value may start. -/
theorem skipFrom_leftBracket {place : Place} {stack : List Container}
    (hplace : place = .value ∨ place = .firstItem) (ts : List Token) :
    skipFrom place stack (.leftBracket :: ts) = skipFrom .firstItem (.array :: stack) ts := by
  have hpass : pass place stack .leftBracket = some (.inside .firstItem (.array :: stack)) :=
    pass_eq_startValue hplace (by rintro ⟨⟩)
  exact skipFrom_cons hpass ts

theorem skipFrom_leftBrace {place : Place} {stack : List Container}
    (hplace : place = .value ∨ place = .firstItem) (ts : List Token) :
    skipFrom place stack (.leftBrace :: ts) = skipFrom .firstMember (.object :: stack) ts := by
  have hpass : pass place stack .leftBrace = some (.inside .firstMember (.object :: stack)) :=
    pass_eq_startValue hplace (by rintro ⟨⟩)
  exact skipFrom_cons hpass ts

/-- The name of a member leads to its value. -/
theorem skipFrom_name {place : Place} {stack : List Container}
    (hstarts : Starts .members place stack) (name : Option String) (ts : List Token) :
    skipFrom place stack (.string name :: .colon :: ts) = skipFrom .value stack ts := by
  obtain ⟨hplace, hstack⟩ := hstarts
  obtain ⟨stack, rfl⟩ := List.head?_eq_some_iff.mp hstack
  rcases hplace with rfl | rfl <;> rfl

end Reader

open Reader (resume skipFrom_cons Starts afterValue)

/-- A part of a document leads to the place after a value. -/
theorem HasShape.skipFrom_eq {shape : Shape} {ts : List Token} (h : HasShape shape ts)
    {place : Reader.Place} {stack : List Reader.Container} (hstarts : Starts shape place stack)
    (rest : List Token) :
    Reader.skipFrom place stack (ts ++ rest) = resume (afterValue stack) rest := by
  -- By induction on the shape, inside of any containers. An array or object goes onto the stack at
  -- its start, and its end takes it off again.
  induction h generalizing place stack rest with
  | null | bool | number | string =>
    exact skipFrom_cons (Reader.pass_eq_startValue hstarts (by rintro ⟨⟩)) rest
  | emptyArray =>
    rw [List.cons_append, Reader.skipFrom_leftBracket hstarts]
    exact skipFrom_cons rfl rest
  | emptyObject =>
    rw [List.cons_append, Reader.skipFrom_leftBrace hstarts]
    exact skipFrom_cons rfl rest
  | array _ ih =>
    rw [List.cons_append, List.append_assoc, Reader.skipFrom_leftBracket hstarts,
      ih ⟨.inr rfl, rfl⟩]
    exact skipFrom_cons rfl rest
  | object _ ih =>
    rw [List.cons_append, List.append_assoc, Reader.skipFrom_leftBrace hstarts,
      ih ⟨.inr rfl, rfl⟩]
    exact skipFrom_cons rfl rest
  | item _ ih => exact ih hstarts.1 rest
  | moreItems _ _ ih ihmore =>
    -- Behind the comma only a value may follow, not the end of the array.
    obtain ⟨hplace, hstack⟩ := hstarts
    obtain ⟨stack, rfl⟩ := List.head?_eq_some_iff.mp hstack
    rw [List.append_assoc, ih hplace]
    have hmore : Starts .items .value (.array :: stack) := ⟨.inl rfl, rfl⟩
    exact ihmore hmore rest
  | member name _ ih =>
    rw [List.cons_append, List.cons_append, Reader.skipFrom_name hstarts]
    exact ih (.inl rfl) rest
  | moreMembers name _ _ ih ihmore =>
    rw [List.cons_append, List.cons_append, List.append_assoc, Reader.skipFrom_name hstarts,
      ih (.inl rfl)]
    obtain ⟨stack, rfl⟩ := List.head?_eq_some_iff.mp hstarts.2
    -- Behind the comma only a name may follow, not the end of the object.
    have hmore : Starts .members .name (.object :: stack) := ⟨.inl rfl, rfl⟩
    exact ihmore hmore rest

/-- A value is passed over whatever it is. -/
theorem reads_skip {ts : List Token} (h : IsValue ts) : Reads Reader.skip ts () := by
  intro rest
  have hskip : Reader.skipFrom .value [] (ts ++ rest) = .ok rest := h.skipFrom_eq (.inl rfl) rest
  rw [Reader.skip, hskip]
  rfl

end TrackCriteria.Json
