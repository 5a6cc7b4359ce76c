import TrackCriteria.Proofs.Json.Record
import TrackCriteria.Schema.Json

/-!
# Tables that leave out columns

An object may tell some of the columns of a table, in any order and with anything else between them.
The four kinds of tables are read from it alike: what it leaves out has a name that stands for it, or
is the fault that it is missing (`ReadsOver`). All of them are read column by column
(`readsOver_of_columns`), so a kind of table is given by its columns and by what stands for them.
-/

namespace TrackCriteria

open Json (Entry Yields contents toldKeys lookup_cons_eq_ite lookup_eq_none_iff_notMem
  lookup_contents_eq_none_iff isSome_lookup mem_of_lookup_eq_some)

/-! ### Columns by name -/

/-- The names that the table of tracks has, each under the key that it is told with. -/
def TracksTable.columns (t : TracksTable) : Columns :=
  [("table", t.table), ("id", t.id), ("user_id", t.userId), ("name", t.name),
    ("explicit", t.explicit), ("album_id", t.albumId), ("date_added", t.dateAdded)]

/-- The names that the table of albums has. -/
def AlbumsTable.columns (t : AlbumsTable) : Columns :=
  [("table", t.table), ("id", t.id), ("name", t.name), ("release_date", t.releaseDate)]

/-- The names that a table of labels or artists has. -/
def NamedTable.columns (t : NamedTable) : Columns :=
  [("table", t.table), ("id", t.id), ("name", t.name)]

/-- The names that a table of links has. What is linked has the same key in both of them. -/
def LinkTable.columns (t : LinkTable) : Columns :=
  [("table", t.table), ("track_id", t.trackId), ("other_id", t.otherId)]

/-! ### What is told of a table -/

/-- The tokens of an object whose members tell texts. -/
abbrev textTokens (es : List (Entry String)) : List Json.Token :=
  Json.entriesTokens (fun text => [.string (some text)]) es

/-- The first column that is missing in a table, in the order of declaration. -/
def missingColumn? (required : List String) (es : List (Entry String)) : Option String :=
  required.find? fun column => decide (column ∉ toldKeys es)

/-- What a table comes to that is told so much of: its first missing column, or what is told in place
of the columns that stand for the others. -/
def overlaid (required : List String) (base : Columns) (es : List (Entry String)) :
    Except Json.Fault Columns :=
  match missingColumn? required es with
  | some column => .error (.missingField column)
  | none => .ok (base.map fun (column, name) => (column, Columns.get (contents es) column name))

/-! ### Columns that are read -/

variable {es : List (Entry String)} {levels : Nat}

/-- The fields of columns with these names. -/
abbrev columnFields (names : List (String × Bool)) : List (Json.Reader.RecordField Columns) :=
  names.map fun (name, required) => columnField name required

theorem find?_columnFields_eq_none {names : List (String × Bool)} {key : String}
    (hkey : key ∉ names.map Prod.fst) : (columnFields names).find? (·.name = key) = none := by
  refine List.find?_eq_none.mpr fun field hfield => ?_
  obtain ⟨entry, hentry, rfl⟩ := List.mem_map.mp hfield
  have hne : entry.1 ≠ key := ne_of_mem_of_not_mem (List.mem_map_of_mem hentry) hkey
  rw [decide_eq_true_iff]
  exact hne

theorem readsField_columnFields {names : List (String × Bool)} {key : String}
    (hkey : key ∈ names.map Prod.fst) (text : String) :
    ∃ field, Json.ReadsField (columnFields names) levels (fun s k => s.lookup k) key
      [.string (some text)] (.ok text) field := by
  have hsome : ((columnFields names).find? (·.name = key)).isSome := by
    obtain ⟨entry, hentry, hname⟩ := List.mem_map.mp hkey
    exact List.find?_isSome.mpr ⟨_, List.mem_map_of_mem hentry, decide_eq_true hname⟩
  -- The field that is found has the name that was looked for.
  obtain ⟨field, hfind⟩ := Option.isSome_iff_exists.mp hsome
  obtain ⟨⟨name, required⟩, -, rfl⟩ := List.mem_map.mp (List.mem_of_find?_eq_some hfind)
  have hname := List.find?_some hfind
  obtain rfl : name = key := of_decide_eq_true hname
  refine ⟨columnField name required, hfind, fun s => rfl, ?_, ?_⟩
  · rintro s fault ⟨⟩
  · rintro s _ ⟨⟩
    exact ⟨(name, text) :: s, (Json.reads_string text).yields.map fun text => (name, text) :: s,
      fun k => lookup_cons_eq_ite k name text s⟩

/-- The columns that are missing in a record are those that are not told. -/
theorem complete_columnFields (names : List (String × Bool)) {s : Columns}
    (hs : ∀ column, s.lookup column = (contents es).lookup column) :
    Json.complete (columnFields names) s =
      match missingColumn? ((names.filter (·.2)).map Prod.fst) es with
      | some column => .error (.missingField column)
      | none => .ok s := by
  have hmissing : missingColumn? ((names.filter (·.2)).map Prod.fst) es =
      ((columnFields names).find? fun field => field.required && !field.isRead s).map (·.name) := by
    rw [missingColumn?, columnFields, List.find?_map, List.find?_map, List.find?_filter, Option.map_map]
    congr 2
    funext ⟨name, required⟩
    -- A column has been read iff it is told.
    have hread : (s.lookup name).isSome = decide (name ∈ toldKeys es) := by
      rw [hs, isSome_lookup]
      rfl
    simp only [Function.comp_apply, columnField, hread, Bool.decide_and, Bool.decide_eq_true,
      decide_not]
  rw [hmissing, Json.complete]
  cases (columnFields names).find? fun field => field.required && !field.isRead s <;> rfl

/-- The columns of a table are what is told of them, unless one is missing. -/
theorem yields_columns {names : List (String × Bool)} {parts : Columns}
    (hparts : parts.map Prod.fst = names.map Prod.fst) (h : Json.Describes Eq parts es) :
    ∃ s : Columns, (∀ column, s.lookup column = (contents es).lookup column) ∧
      Yields (columns names (levels + 1)) (textTokens es)
        (match missingColumn? ((names.filter (·.2)).map Prod.fst) es with
        | some column => .error (.missingField column)
        | none => .ok s) := by
  have hfield : ∀ key part text, parts.lookup key = some part → part = text →
      ∃ field, Json.ReadsField (columnFields names) levels
        (fun s k => s.lookup k) key [.string (some text)] (.ok text) field := by
    rintro key text _ hlookup rfl
    refine readsField_columnFields ?_ text
    rw [← hparts]
    exact List.mem_map_of_mem (mem_of_lookup_eq_some hlookup)
  have hother : ∀ key, parts.lookup key = none →
      (columnFields names).find? (·.name = key) = none := by
    intro key hlookup
    refine find?_columnFields_eq_none ?_
    rw [← hparts]
    exact lookup_eq_none_iff_notMem.mp hlookup
  obtain ⟨s, hcollects, hs⟩ := (h.collects hfield hother fun _ _ => List.lookup_nil).2
    (List.findSome?_eq_none_iff.mpr fun _ _ => rfl)
  -- Any text can be read as a name, so nothing that is told is lost.
  have hlookup : ∀ column, s.lookup column = (contents es).lookup column := by
    intro column
    rw [hs]
    cases (contents es).lookup column <;> rfl
  refine ⟨s, hlookup, ?_⟩
  rw [← complete_columnFields names hlookup]
  exact Json.yields_record hcollects

/-! ### Tables -/

section Tables

variable {T : Type} {reader : Nat → Json.Reader T} {view : T → Columns} {required : List String}
  {base : T}

/-- Whether a reader of tables comes to what is told in place of the columns of this table. -/
def ReadsOver (reader : Nat → Json.Reader T) (view : T → Columns) (required : List String)
    (base : T) : Prop :=
  ∀ part es levels, Json.Describes Eq (view part) es → ∃ result : Except Json.Fault T,
    Yields (reader (levels + 1)) (textTokens es) result ∧
      result.map view = overlaid required (view base) es

theorem readsOver_of_columns {names : List (String × Bool)} {build : Columns → T}
    (hnames : ∀ t, (view t).map Prod.fst = names.map Prod.fst)
    (hrequired : (names.filter (·.2)).map Prod.fst = required)
    (hview : ∀ s : Columns, (∀ column ∈ required, s.lookup column ≠ none) →
      view (build s) = (view base).map fun (column, name) => (column, s.get column name)) :
    ReadsOver (fun levels => do return build (← columns names levels)) view required base := by
  intro part es levels h
  obtain ⟨s, hs, hyields⟩ := yields_columns (hnames part) h
  refine ⟨_, Yields.map hyields build, ?_⟩
  rw [hrequired, overlaid]
  cases hmissing : missingColumn? required es with
  | some column => rfl
  | none =>
    -- No required column is missing, so each has been read.
    have htold : ∀ column ∈ required, s.lookup column ≠ none := by
      intro column hcolumn hnone
      have hkept := List.find?_eq_none.mp hmissing column hcolumn
      rw [hs, lookup_contents_eq_none_iff] at hnone
      exact hkept (decide_eq_true hnone)
    have hget : ∀ column name, s.get column name = Columns.get (contents es) column name := by
      intro column name
      rw [Columns.get, Columns.get, hs]
    simp only [Except.map, hview s htold, hget]

/-- A column that is there does not depend on what stands for it. -/
theorem Columns.get_eq_get {s : Columns} {column : String} (h : s.lookup column ≠ none)
    (name name' : String) : s.get column name = s.get column name' := by
  obtain ⟨text, htext⟩ := Option.ne_none_iff_exists'.mp h
  rw [Columns.get, Columns.get, htext, Option.getD_some, Option.getD_some]

theorem TracksTable.readsOver :
    ReadsOver TracksTable.reader TracksTable.columns [] Schema.standard.tracks :=
  readsOver_of_columns (fun _ => rfl) rfl fun _ _ => rfl

theorem AlbumsTable.readsOver :
    ReadsOver AlbumsTable.reader AlbumsTable.columns [] Schema.standard.albums :=
  readsOver_of_columns (fun _ => rfl) rfl fun _ _ => rfl

theorem NamedTable.readsOver (table : String) :
    ReadsOver NamedTable.reader NamedTable.columns ["table"] ⟨table, "id", "name"⟩ := by
  refine readsOver_of_columns (fun _ => rfl) rfl fun s h => ?_
  have htable := Columns.get_eq_get (h "table" (List.mem_cons_self ..)) "" table
  simp only [columns, List.map_cons, List.map_nil, htable]

theorem LinkTable.readsOver (table other : String) :
    ReadsOver LinkTable.reader LinkTable.columns ["table", "other_id"] ⟨table, "track_id", other⟩ := by
  refine readsOver_of_columns (fun _ => rfl) rfl fun s h => ?_
  have htable := Columns.get_eq_get (h "table" (List.mem_cons_self ..)) "" table
  have hother := Columns.get_eq_get (h "other_id" (List.mem_cons_of_mem _ (List.mem_cons_self ..)))
    "" other
  simp only [columns, List.map_cons, List.map_nil, htable, hother]

end Tables

end TrackCriteria
