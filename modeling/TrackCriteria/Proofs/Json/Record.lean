import TrackCriteria.Proofs.Json.Skip

/-!
# Records in any order

What a record becomes is decided member by member, in the order of the document: a field is read, a
member that no one asked for is passed over, and the first fault ends it all (`Collects`,
`yields_record`). Faults are results like any other here: a reader yields a result for some tokens if
it comes to it whatever stands after them (`Yields`).

The members of an object are told apart by whether they are asked for (`Entry`). An object describes
some parts that have names if its members tell some of them, each at most once and in any order, with
anything else between them (`Describes`).
-/

namespace TrackCriteria.Json

variable {α β σ : Type} {ts : List Token}

/-! ### Results of readers -/

/-- Whether the reader comes to this result for these tokens, whatever stands after them. -/
def Yields (reader : Reader α) (ts : List Token) (result : Except Fault α) : Prop :=
  ∀ rest, reader (ts ++ rest) = result.map fun a => (a, rest)

open Reader (bind_of_eq_ok bind_of_eq_error)

theorem Reads.yields {reader : Reader α} {a : α} (h : Reads reader ts a) :
    Yields reader ts (.ok a) :=
  h

theorem Yields.map {reader : Reader α} {result : Except Fault α} (h : Yields reader ts result)
    (f : α → β) : Yields (do return f (← reader)) ts (result.map f) := by
  intro rest
  cases result with
  | ok a => exact bind_of_eq_ok (h rest) _
  | error fault => exact bind_of_eq_error (h rest) _

/-- A document is what its reader comes to. -/
theorem read_of_yields {reader : Nat → Reader α} {text : String} {result : Except Fault α}
    (hscan : scan text = ts) (h : Yields (reader maxLevels) ts result) :
    read reader text = result := by
  have hread := h []
  rw [List.append_nil] at hread
  rw [read, hscan, hread]
  cases result <;> rfl

/-! ### Objects -/

/-- The tokens of a member, given its name and the tokens of its value. -/
def entryTokens (m : String × List Token) : List Token :=
  .string (some m.1) :: .colon :: m.2

/-- The tokens of the members after the first one, and of the end of the object. -/
def closingTokens (ms : List (String × List Token)) : List Token :=
  ms.flatMap (fun m => .comma :: entryTokens m) ++ [.rightBrace]

/-- The tokens of members and of the end of the object. -/
def bodyTokens : List (String × List Token) → List Token
  | [] => [.rightBrace]
  | m :: ms => entryTokens m ++ closingTokens ms

/-- The tokens of an object. -/
def objectTokens (ms : List (String × List Token)) : List Token :=
  .leftBrace :: bodyTokens ms

theorem closingTokens_cons (m : String × List Token) (ms : List (String × List Token)) :
    closingTokens (m :: ms) = .comma :: (entryTokens m ++ closingTokens ms) := by
  rw [closingTokens, List.flatMap_cons, List.append_assoc]
  rfl

/-- An object that is written has these tokens. -/
theorem tokens_object (members : List (String × Json)) :
    tokens (.object members) = objectTokens (members.map fun (key, value) => (key, tokens value)) := by
  have hmembers : ∀ m members, memberTokens (m :: members) ++ [.rightBrace] =
      entryTokens (m.1, tokens m.2) ++
        closingTokens (members.map fun (key, value) => (key, tokens value)) := by
    intro m members
    -- By induction on the members behind the first one, each of which has a comma in front.
    induction members generalizing m with
    | nil => rfl
    | cons m' members ih =>
      rw [List.map_cons, closingTokens_cons, ← ih, memberTokens, entryTokens]
      · simp only [List.cons_append, List.append_assoc]
      · rintro ⟨⟩
  rw [tokens]
  cases members with
  | nil => rfl
  | cons m members => exact congrArg _ (hmembers m members)

/-! ### Records -/

section Record

variable {fields : List (Reader.RecordField σ)} {levels : Nat} {s s' : σ} {key : String}
  {result : Except Fault σ}

/-- A member with a field that has not been read before is what the field is. -/
theorem yields_member {field : Reader.RecordField σ}
    (hfield : fields.find? (·.name = key) = some field) (hread : field.isRead s = false)
    (h : Yields (field.read levels s) ts result) :
    Yields (Reader.member fields levels s) (entryTokens (key, ts)) result := by
  intro rest
  have hname := reads_string key (.colon :: (ts ++ rest))
  have hcolon := reads_token .colon (ts ++ rest)
  rw [List.singleton_append] at hname hcolon
  rw [entryTokens, List.cons_append, List.cons_append, Reader.member, bind_of_eq_ok hname]
  simp only [hfield, hread]
  exact (bind_of_eq_ok hcolon _).trans (h rest)

/-- A member that no one asked for changes nothing. -/
theorem yields_member_of_isValue (hfield : fields.find? (·.name = key) = none) (h : IsValue ts) :
    Yields (Reader.member fields levels s) (entryTokens (key, ts)) (.ok s) := by
  intro rest
  have hname := reads_string key (.colon :: (ts ++ rest))
  have hcolon := reads_token .colon (ts ++ rest)
  rw [List.singleton_append] at hname hcolon
  rw [entryTokens, List.cons_append, List.cons_append, Reader.member, bind_of_eq_ok hname]
  simp only [hfield]
  rw [bind_of_eq_ok hcolon, bind_of_eq_ok (reads_skip h rest)]
  rfl

/-- What becomes of a record, member by member. -/
inductive Collects (fields : List (Reader.RecordField σ)) (levels : Nat) :
    σ → List (String × List Token) → Except Fault σ → Prop where
  | done (s : σ) : Collects fields levels s [] (.ok s)
  | fails {s : σ} {m : String × List Token} {fault : Fault} (ms : List (String × List Token))
      (h : Yields (Reader.member fields levels s) (entryTokens m) (.error fault)) :
      Collects fields levels s (m :: ms) (.error fault)
  | reads {s s' : σ} {m : String × List Token} {ms : List (String × List Token)}
      {result : Except Fault σ}
      (h : Yields (Reader.member fields levels s) (entryTokens m) (.ok s'))
      (hmore : Collects fields levels s' ms result) : Collects fields levels s (m :: ms) result

variable {ms : List (String × List Token)}

theorem Collects.moreMembers (h : Collects fields levels s ms result) (rest : List Token)
    {bound : Nat} (hbound : (closingTokens ms).length ≤ bound) :
    Reader.moreMembers fields levels bound s (closingTokens ms ++ rest) =
      result.map fun s => (s, rest) := by
  -- Each member takes a comma at least, so the bound lasts to the closing brace.
  induction h generalizing bound with
  | done s =>
    obtain ⟨bound, rfl⟩ := Nat.exists_eq_add_of_le' hbound
    rfl
  | @fails s m fault ms h =>
    rw [closingTokens_cons, List.length_cons] at hbound
    obtain ⟨bound, rfl⟩ := Nat.exists_eq_add_of_le' (Nat.le_trans (Nat.le_add_left 1 _) hbound)
    rw [closingTokens_cons, List.cons_append, List.append_assoc, Reader.moreMembers,
      bind_of_eq_ok (Reader.next_cons _ _)]
    exact bind_of_eq_error (h _) _
  | @reads s s' m ms result h _ ih =>
    rw [closingTokens_cons, List.length_cons, List.length_append] at hbound
    obtain ⟨bound, rfl⟩ := Nat.exists_eq_add_of_le' (Nat.le_trans (Nat.le_add_left 1 _) hbound)
    rw [closingTokens_cons, List.cons_append, List.append_assoc, Reader.moreMembers,
      bind_of_eq_ok (Reader.next_cons _ _)]
    exact (bind_of_eq_ok (h _) _).trans (ih (by omega))

theorem Collects.members (h : Collects fields levels s ms result) (rest : List Token) :
    Reader.members fields levels s (bodyTokens ms ++ rest) = result.map fun s => (s, rest) := by
  have hget : ∀ ts : List Token, get (m := Reader) ts = .ok (ts, ts) := fun _ => rfl
  have hpeek : ∀ (m : String × List Token) ts, Reader.peek (entryTokens m ++ ts) =
      .ok (.string (some m.1), entryTokens m ++ ts) := fun _ _ => rfl
  have hne : ∀ m : String × List Token, Token.string (some m.1) ≠ .rightBrace := by
    rintro m ⟨⟩
  -- The first member has no comma in front, and a closing brace is no name.
  cases h with
  | done s => rfl
  | @fails _ m fault ms h =>
    rw [bodyTokens, List.append_assoc, Reader.members, bind_of_eq_ok (hpeek _ _), if_neg (hne m)]
    exact bind_of_eq_error (h _) _
  | @reads _ s' m ms _ h hmore =>
    rw [bodyTokens, List.append_assoc, Reader.members, bind_of_eq_ok (hpeek _ _), if_neg (hne m)]
    refine (bind_of_eq_ok (h _) _).trans ((bind_of_eq_ok (hget _) _).trans ?_)
    refine hmore.moreMembers rest ?_
    rw [List.length_append]
    exact Nat.le_add_right _ _

/-- The record whose members have all been looked at, if it has all the fields that it has to have. -/
def complete (fields : List (Reader.RecordField σ)) (s : σ) : Except Fault σ :=
  match fields.find? fun field => field.required && !field.isRead s with
  | some field => .error (.missingField field.name)
  | none => .ok s

/-- A record is what becomes of it member by member, and complete. -/
theorem yields_record (h : Collects fields levels s ms result) :
    Yields (Reader.record fields (levels + 1) s) (objectTokens ms)
      (result.bind (complete fields)) := by
  intro rest
  have hmembers := h.members rest
  rw [objectTokens, List.cons_append, Reader.record, bind_of_eq_ok (Reader.next_cons _ _)]
  cases result with
  | error fault => exact bind_of_eq_error hmembers _
  | ok s' =>
    refine (bind_of_eq_ok hmembers _).trans ?_
    rw [Except.bind, complete, Reader.checkRequired]
    cases fields.find? fun field => field.required && !field.isRead s' <;> rfl

end Record

/-! ### Members that are asked for, and others -/

/-- A member of an object: one that tells something, or one that no one asked for. -/
inductive Entry (α : Type) where
  | told (key : String) (content : α)
  | other (key : String) (value : List Token)

/-- What the members of an object tell. -/
def contents (es : List (Entry α)) : List (String × α) :=
  es.filterMap fun
    | .told key content => some (key, content)
    | .other _ _ => none

/-- The names of the members that tell something. -/
def toldKeys (es : List (Entry α)) : List String :=
  (contents es).map Prod.fst

/-- The name of a member with the tokens of its value. -/
def Entry.member (tokensOf : α → List Token) : Entry α → String × List Token
  | .told key content => (key, tokensOf content)
  | .other key value => (key, value)

/-- The tokens of the object with these members. -/
def entriesTokens (tokensOf : α → List Token) (es : List (Entry α)) : List Token :=
  objectTokens (es.map (Entry.member tokensOf))

/-- Whether the members of an object describe some of these parts, each at most once. Members that
tell nothing have other names and any values. -/
structure Describes (describes : β → α → Prop) (parts : List (String × β))
    (es : List (Entry α)) : Prop where
  nodup : (toldKeys es).Nodup
  told : ∀ key content, Entry.told key content ∈ es →
    ∃ part, parts.lookup key = some part ∧ describes part content
  other : ∀ key value, Entry.other key value ∈ es → parts.lookup key = none ∧ IsValue value

/-! ### Looking names up -/

theorem lookup_cons_eq_ite (key key' : String) (a : α) (l : List (String × α)) :
    ((key', a) :: l).lookup key = if key = key' then some a else l.lookup key := by
  rw [List.lookup_cons]
  by_cases h : key = key'
  · rw [if_pos h, beq_iff_eq.mpr h]
  · rw [if_neg h, beq_eq_false_iff_ne.mpr h]

theorem lookup_eq_none_iff_notMem {key : String} {l : List (String × α)} :
    l.lookup key = none ↔ key ∉ l.map Prod.fst := by
  simp only [List.lookup_eq_none_iff, bne_iff_ne, List.mem_map, not_exists, not_and]
  exact ⟨fun h p hp hkey => h p hp hkey.symm, fun h p hp hkey => h p hp hkey.symm⟩

theorem isSome_lookup (key : String) (l : List (String × α)) :
    (l.lookup key).isSome = decide (key ∈ l.map Prod.fst) := by
  rw [← Option.not_isNone, Bool.eq_iff_iff, Bool.not_eq_true', ← Bool.not_eq_true,
    Option.isNone_iff_eq_none, lookup_eq_none_iff_notMem, decide_eq_true_iff, not_not]

theorem mem_of_lookup_eq_some {key : String} {a : α} {l : List (String × α)}
    (h : l.lookup key = some a) : (key, a) ∈ l := by
  obtain ⟨front, back, rfl, _⟩ := List.lookup_eq_some_iff.mp h
  exact List.mem_append_right _ (List.mem_cons_self ..)

theorem lookup_eq_some_of_mem {key : String} {a : α} {l : List (String × α)}
    (hnodup : (l.map Prod.fst).Nodup) (h : (key, a) ∈ l) : l.lookup key = some a := by
  induction l with
  | nil => cases h
  | cons entry l ih =>
    obtain ⟨key', a'⟩ := entry
    obtain ⟨hkey', hnodup⟩ := List.nodup_cons.mp hnodup
    rw [lookup_cons_eq_ite]
    -- An entry further back has another key than this one.
    rcases List.mem_cons.mp h with heq | hmem
    · cases heq
      exact if_pos rfl
    · have hne : key ≠ key' :=
        ne_of_mem_of_not_mem (List.mem_map_of_mem hmem) hkey'
      rw [if_neg hne, ih hnodup hmem]

theorem lookup_map_snd (f : String → α → β) (key : String) (l : List (String × α)) :
    (l.map fun (k, a) => (k, f k a)).lookup key = (l.lookup key).map (f key) := by
  induction l with
  | nil => rfl
  | cons entry l ih =>
    obtain ⟨k, a⟩ := entry
    rw [List.map_cons, lookup_cons_eq_ite, lookup_cons_eq_ite, ih]
    split_ifs with h
    · rw [h, Option.map_some]
    · rfl

/-! ### What members tell a record -/

section Told

variable {describes : β → α → Prop} {parts : List (String × β)} {e : Entry α} {es : List (Entry α)}

theorem contents_told (key : String) (content : α) (es : List (Entry α)) :
    contents (.told key content :: es) = (key, content) :: contents es :=
  rfl

theorem mem_contents {key : String} {content : α} :
    (key, content) ∈ contents es ↔ Entry.told key content ∈ es := by
  rw [contents, List.mem_filterMap]
  constructor
  · rintro ⟨e, he, h⟩
    cases e with
    | told => cases h; exact he
    | other => cases h
  · exact fun h => ⟨_, h, rfl⟩

theorem lookup_contents_eq_none_iff {key : String} :
    (contents es).lookup key = none ↔ key ∉ toldKeys es :=
  lookup_eq_none_iff_notMem

theorem Describes.tail (h : Describes describes parts (e :: es)) : Describes describes parts es where
  nodup := h.nodup.sublist (((List.sublist_cons_self e es).filterMap _).map _)
  told key content hmem := h.told key content (List.mem_cons_of_mem _ hmem)
  other key value hmem := h.other key value (List.mem_cons_of_mem _ hmem)

/-- The members that tell every part. -/
def toldAll (contentOf : β → α) (parts : List (String × β)) : List (Entry α) :=
  parts.map fun (key, part) => .told key (contentOf part)

theorem contents_toldAll (contentOf : β → α) (parts : List (String × β)) :
    contents (toldAll contentOf parts) = parts.map fun (key, part) => (key, contentOf part) := by
  rw [contents, toldAll, List.filterMap_map, ← List.filterMap_eq_map]
  rfl

theorem toldKeys_toldAll (contentOf : β → α) (parts : List (String × β)) :
    toldKeys (toldAll contentOf parts) = parts.map Prod.fst := by
  rw [toldKeys, contents_toldAll, List.map_map]
  rfl

/-- Members that tell every part describe the parts. -/
theorem describes_toldAll {contentOf : β → α} (hnodup : (parts.map Prod.fst).Nodup)
    (h : ∀ entry ∈ parts, describes entry.2 (contentOf entry.2)) :
    Describes describes parts (toldAll contentOf parts) where
  nodup := by
    rw [toldKeys_toldAll]
    exact hnodup
  told key content hmem := by
    obtain ⟨⟨key', part⟩, hpart, heq⟩ := List.mem_map.mp hmem
    cases heq
    exact ⟨part, lookup_eq_some_of_mem hnodup hpart, h _ hpart⟩
  other key value hmem := by
    obtain ⟨_, _, heq⟩ := List.mem_map.mp hmem
    cases heq

/-- What an object tells under a name describes the part that has the name. -/
theorem Describes.of_lookup (h : Describes describes parts es) {key : String} {content : α}
    (hlookup : (contents es).lookup key = some content) :
    ∃ part, parts.lookup key = some part ∧ describes part content :=
  h.told key content (mem_contents.mp (mem_of_lookup_eq_some hlookup))

variable {γ : Type} {fields : List (Reader.RecordField σ)} {levels : Nat}
  {view : σ → String → Option γ} {key : String} {ts : List Token} {result : Except Fault γ}

/-- Whether a record has a field of this name that comes to this result for these tokens. What has
been read of each field is seen in the record. -/
structure ReadsField (fields : List (Reader.RecordField σ)) (levels : Nat)
    (view : σ → String → Option γ) (key : String) (ts : List Token) (result : Except Fault γ)
    (field : Reader.RecordField σ) : Prop where
  find : fields.find? (·.name = key) = some field
  isRead : ∀ s, field.isRead s = (view s key).isSome
  fails : ∀ s fault, result = .error fault → Yields (field.read levels s) ts (.error fault)
  reads : ∀ s c, result = .ok c → ∃ s', Yields (field.read levels s) ts (.ok s') ∧
    ∀ k, view s' k = if k = key then some c else view s k

/-- The fault of a result, if it is one. -/
def fault? : Except Fault γ → Option Fault
  | .error fault => some fault
  | .ok _ => none

/-- The first fault of what the members of an object tell. -/
def firstFault? (come : String → α → Except Fault γ) (es : List (Entry α)) : Option Fault :=
  (contents es).findSome? fun (key, content) => fault? (come key content)

theorem firstFault?_told (come : String → α → Except Fault γ) (key : String) (content : α)
    (es : List (Entry α)) : firstFault? come (.told key content :: es) =
      (fault? (come key content)).or (firstFault? come es) := by
  rw [firstFault?, contents_told, List.findSome?_cons]
  dsimp only
  cases fault? (come key content) <;> rfl

/-- A record of an object that describes some parts ends with the first fault of what is told, and
has read all that is told if there is none. -/
theorem Describes.collects {come : String → α → Except Fault γ} {tokensOf : α → List Token}
    (h : Describes describes parts es)
    (hfield : ∀ key part content, parts.lookup key = some part → describes part content →
      ∃ field, ReadsField fields levels view key (tokensOf content) (come key content) field)
    (hother : ∀ key, parts.lookup key = none → fields.find? (·.name = key) = none)
    {s : σ} (hs : ∀ key ∈ toldKeys es, view s key = none) :
    (∀ fault, firstFault? come es = some fault →
      Collects fields levels s (es.map (Entry.member tokensOf)) (.error fault)) ∧
    (firstFault? come es = none → ∃ s',
      Collects fields levels s (es.map (Entry.member tokensOf)) (.ok s') ∧
      ∀ key, view s' key = (((contents es).lookup key).bind fun content =>
        (come key content).toOption).or (view s key)) := by
  -- By induction on the entries, for all that has been read before. What is told has not been read
  -- yet, since no key is told twice.
  induction es generalizing s with
  | nil =>
    refine ⟨?_, fun _ => ⟨s, .done s, fun _ => rfl⟩⟩
    rintro fault ⟨⟩
  | cons e es ih =>
    cases e with
    | other key value =>
      -- An unknown key is passed over and changes nothing.
      obtain ⟨hlookup, hvalue⟩ := h.other key value (List.mem_cons_self ..)
      have hmember : Yields (Reader.member fields levels s) (entryTokens (key, value)) (.ok s) :=
        yields_member_of_isValue (hother key hlookup) hvalue
      obtain ⟨hfail, hok⟩ := ih h.tail hs
      refine ⟨fun fault hfault => .reads hmember (hfail fault hfault), fun hnone => ?_⟩
      obtain ⟨s', hcollects, hview⟩ := hok hnone
      exact ⟨s', .reads hmember hcollects, hview⟩
    | told key content =>
      obtain ⟨part, hlookup, hdescribes⟩ := h.told key content (List.mem_cons_self ..)
      obtain ⟨field, hread⟩ := hfield key part content hlookup hdescribes
      have hunread : field.isRead s = false := by
        rw [hread.isRead, hs key (List.mem_cons_self ..)]
        rfl
      obtain ⟨hkey, -⟩ := List.nodup_cons.mp h.nodup
      rw [firstFault?_told]
      cases hcome : come key content with
      | error fault =>
        refine ⟨?_, by rintro ⟨⟩⟩
        rintro _ ⟨⟩
        exact .fails _ (yields_member hread.find hunread (hread.fails s fault hcome))
      | ok c =>
        obtain ⟨s', hyields, hview⟩ := hread.reads s c hcome
        have hmember := yields_member hread.find hunread hyields
        -- The keys that are told later are still unread.
        have hs' : ∀ k ∈ toldKeys es, view s' k = none := by
          intro k hk
          rw [hview, if_neg (ne_of_mem_of_not_mem hk hkey)]
          exact hs k (List.mem_cons_of_mem _ hk)
        obtain ⟨hfail, hok⟩ := ih h.tail hs'
        refine ⟨fun fault hfault => .reads hmember (hfail fault hfault), fun hnone => ?_⟩
        obtain ⟨s'', hcollects, hview'⟩ := hok hnone
        refine ⟨s'', .reads hmember hcollects, fun k => ?_⟩
        rw [hview', hview, contents_told, lookup_cons_eq_ite]
        -- The key that was just read is not told again, and for any other nothing has changed.
        split_ifs with hk
        · have hnone : (contents es).lookup k = none := by
            rw [hk]
            exact lookup_contents_eq_none_iff.mpr hkey
          rw [hnone, Option.bind_some, hk, hcome]
          rfl
        · rfl

end Told

end TrackCriteria.Json
