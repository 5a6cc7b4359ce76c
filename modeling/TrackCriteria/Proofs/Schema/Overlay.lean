import TrackCriteria.Proofs.Schema.Table

/-!
# What a schema file leaves out

A schema file may tell some of the tables of a schema, and of each of these tables some of the
columns, in any order and with anything else between them (`Schema.Document`). Such a file is read as
the schema with the default names in place of all that is left out, unless a table is told without a
column that it has to have: the first such table of the document is the fault
(`Schema.load_described`).

A schema is seen here as its tables with their columns, all with their names in a document
(`Schema.tables`). Each table that is told comes to a fault or to columns in place of the default
ones (`Schema.tableOutcome`). The record of the tables then follows in one step from what is known of
records of any kind.
-/

namespace TrackCriteria

open Json (Entry Yields contents toldKeys entriesTokens lookup_map_snd lookup_eq_none_iff_notMem
  lookup_contents_eq_none_iff lookup_eq_some_of_mem isSome_lookup mem_of_lookup_eq_some toldAll
  describes_toldAll)

/-! ### Schemas by name -/

/-- The tables of a schema with their columns, each with its name in a document, in the order of
their declaration. -/
def Schema.tables (s : Schema) : List (String × Columns) :=
  [("tracks", s.tracks.columns), ("albums", s.albums.columns), ("artists", s.artists.columns),
    ("track_artists", s.trackArtists.columns), ("labels", s.labels.columns),
    ("track_labels", s.trackLabels.columns)]

/-- What a schema has for a column of a table, or for the table itself, which goes by `table`. -/
def Schema.name? (s : Schema) (table column : String) : Option String :=
  (s.tables.lookup table).bind (·.lookup column)

/-- The columns that a table has to tell if a document has the table. -/
def Schema.requiredColumns (table : String) : List String :=
  if table = "artists" ∨ table = "labels" then ["table"]
  else if table = "track_artists" ∨ table = "track_labels" then ["table", "other_id"]
  else []

/-! ### Documents -/

/-- A document: tables that are told, with columns that are told, and other members. -/
abbrev Schema.Document := List (Entry (List (Entry String)))

namespace Schema.Document

/-- The tokens of a document. -/
def tokens (doc : Document) : List Json.Token :=
  entriesTokens textTokens doc

/-- Whether a document tells nothing else of the tables and columns than what a schema has for them,
and none of them twice. -/
def Describes (c : Schema) (doc : Document) : Prop :=
  Json.Describes (fun columns es => Json.Describes Eq columns es) c.tables doc

/-- Whether a document tells this column of this table. -/
def keeps (doc : Document) (table column : String) : Bool :=
  ((contents doc).lookup table).any fun es => decide (column ∈ toldKeys es)

/-- The first column that is missing in a table that is told, in the order of the document. -/
def firstMissing? (doc : Document) : Option String :=
  (contents doc).findSome? fun (table, es) => missingColumn? (requiredColumns table) es

end Schema.Document

/-! ### The record of the tables -/

/-- What has been read of a table. -/
def Schema.Parts.table? (p : Schema.Parts) (table : String) : Option Columns :=
  match table with
  | "tracks" => p.tracks.map TracksTable.columns
  | "albums" => p.albums.map AlbumsTable.columns
  | "artists" => p.artists.map NamedTable.columns
  | "track_artists" => p.trackArtists.map LinkTable.columns
  | "labels" => p.labels.map NamedTable.columns
  | "track_labels" => p.trackLabels.map LinkTable.columns
  | _ => none

open Schema (Parts)

section Fields

variable {T : Type} {reader : Nat → Json.Reader T} {view : T → Columns} {required : List String}
  {base : T} {es : List (Entry String)} {levels : Nat}

/-- The field of a table is read as the table is. -/
theorem readsField_of_readsOver (h : ReadsOver reader view required base) {part : T}
    (hes : Json.Describes Eq (view part) es) {key : String} (get : Parts → Option T)
    (set : T → Parts → Parts)
    (hfind : Parts.fields.find? (·.name = key) = some ⟨key, false, fun p => (get p).isSome,
      fun levels p => do return set (← reader levels) p⟩)
    (hget : ∀ p : Parts, p.table? key = (get p).map view)
    (hset : ∀ t p k, (set t p).table? k = if k = key then some (view t) else p.table? k) :
    ∃ field, Json.ReadsField Parts.fields (levels + 1) Parts.table? key (textTokens es)
      (overlaid required (view base) es) field := by
  obtain ⟨result, hyields, hresult⟩ := h part es levels hes
  -- The field is set iff the table was read, and fails as the table does.
  refine ⟨_, hfind, fun p => ?_, fun p fault hfault => ?_, fun p c hc => ?_⟩
  · rw [hget, Option.isSome_map]
  · rw [← hresult] at hfault
    cases result with
    | error => cases hfault; exact hyields.map fun t => set t p
    | ok => cases hfault
  · rw [← hresult] at hc
    cases result with
    | error => cases hc
    | ok t => cases hc; exact ⟨set t p, hyields.map fun t => set t p, hset t p⟩

end Fields

variable {levels : Nat}

/-- What a table comes to in a schema that is told so much of it. -/
def Schema.tableOutcome (table : String) (es : List (Entry String)) : Except Json.Fault Columns :=
  overlaid (Schema.requiredColumns table) ((Schema.standard.tables.lookup table).getD []) es

theorem exists_readsField {c : Schema} {table : String} {part : Columns}
    (htable : c.tables.lookup table = some part) (hes : Json.Describes Eq part es) :
    ∃ field, Json.ReadsField Parts.fields (levels + 1) Parts.table? table (textTokens es)
      (Schema.tableOutcome table es) field := by
  have hmem := mem_of_lookup_eq_some htable
  simp only [Schema.tables, List.mem_cons, List.not_mem_nil, or_false, Prod.mk.injEq] at hmem
  rcases hmem with ⟨rfl, rfl⟩ | ⟨rfl, rfl⟩ | ⟨rfl, rfl⟩ | ⟨rfl, rfl⟩ | ⟨rfl, rfl⟩ | ⟨rfl, rfl⟩
  case' inl =>
    refine readsField_of_readsOver TracksTable.readsOver hes Parts.tracks
      (fun t p => { p with tracks := some t }) rfl (fun _ => rfl) ?_
  case' inr.inl =>
    refine readsField_of_readsOver AlbumsTable.readsOver hes Parts.albums
      (fun t p => { p with albums := some t }) rfl (fun _ => rfl) ?_
  case' inr.inr.inl =>
    refine readsField_of_readsOver (NamedTable.readsOver "artists") hes Parts.artists
      (fun t p => { p with artists := some t }) rfl (fun _ => rfl) ?_
  case' inr.inr.inr.inl =>
    refine readsField_of_readsOver (LinkTable.readsOver "track_artists" "artist_id") hes
      Parts.trackArtists (fun t p => { p with trackArtists := some t }) rfl (fun _ => rfl) ?_
  case' inr.inr.inr.inr.inl =>
    refine readsField_of_readsOver (NamedTable.readsOver "labels") hes Parts.labels
      (fun t p => { p with labels := some t }) rfl (fun _ => rfl) ?_
  case' inr.inr.inr.inr.inr =>
    refine readsField_of_readsOver (LinkTable.readsOver "track_labels" "label_id") hes
      Parts.trackLabels (fun t p => { p with trackLabels := some t }) rfl (fun _ => rfl) ?_
  -- In each case the field that is read is the only one that changes.
  all_goals
    intro t p k
    split_ifs with hk
    · rw [hk]
      rfl
    · unfold Parts.table?
      split <;> first | rfl | contradiction

/-- The names of the columns of a table are the same in every schema. -/
theorem Schema.lookup_names (s s' : Schema) (table : String) :
    (s.tables.lookup table).map (·.map Prod.fst) = (s'.tables.lookup table).map (·.map Prod.fst) :=
  (lookup_map_snd (fun _ columns => columns.map Prod.fst) table s.tables).symm.trans
    (lookup_map_snd (fun _ columns => columns.map Prod.fst) table s'.tables)

/-- A schema that is read has the tables that have been read in place of the default ones. -/
theorem Schema.tables_toSchema (p : Parts) :
    p.toSchema.tables = Schema.standard.tables.map fun (table, columns) =>
      (table, (p.table? table).getD columns) := by
  simp only [Schema.tables, Parts.toSchema, Parts.table?, List.map_cons, List.map_nil,
    Option.getD_map]

/-! ### Documents that are read -/

namespace Schema.Document

variable {c : Schema} {doc : Document}

theorem firstFault?_eq (doc : Document) :
    Json.firstFault? tableOutcome doc = doc.firstMissing?.map .missingField := by
  rw [firstMissing?, List.map_findSome?]
  refine congrArg (fun f => (contents doc).findSome? f) (funext fun (table, es) => ?_)
  simp only [Function.comp_apply, tableOutcome, overlaid]
  cases missingColumn? (requiredColumns table) es <;> rfl

/-- The members of a document are collected up to the first table with a missing column. If there is
none, each table that is told comes to what it is told. -/
theorem Describes.collects (h : doc.Describes c) :
    (∀ column, doc.firstMissing? = some column →
      Json.Collects Parts.fields (levels + 1) ⟨none, none, none, none, none, none⟩
        (doc.map (Entry.member textTokens)) (.error (.missingField column))) ∧
    (doc.firstMissing? = none → ∃ p : Parts,
      Json.Collects Parts.fields (levels + 1) ⟨none, none, none, none, none, none⟩
        (doc.map (Entry.member textTokens)) (.ok p) ∧
      ∀ table, p.table? table =
        ((contents doc).lookup table).bind fun es => (tableOutcome table es).toOption) := by
  have hother : ∀ key, c.tables.lookup key = none → Parts.fields.find? (·.name = key) = none := by
    intro key hlookup
    rw [lookup_eq_none_iff_notMem] at hlookup
    refine List.find?_eq_none.mpr fun field hfield hname => hlookup ?_
    rw [← of_decide_eq_true hname]
    exact List.mem_map_of_mem (f := (·.name)) hfield
  -- At the start no table has been read.
  have hunread : ∀ key, Parts.table? ⟨none, none, none, none, none, none⟩ key = none := by
    intro key
    unfold Parts.table?
    split <;> rfl
  obtain ⟨hfails, hreads⟩ := Json.Describes.collects h
    (fun _ _ _ htable hes => exists_readsField htable hes) hother
    (fun key _ => hunread key)
  rw [firstFault?_eq] at hfails hreads
  refine ⟨fun column hcolumn => hfails _ ?_, fun hnone => ?_⟩
  · rw [hcolumn, Option.map_some]
  · obtain ⟨p, hcollects, hp⟩ := hreads (by rw [hnone, Option.map_none])
    refine ⟨p, hcollects, fun table => ?_⟩
    rw [hp, hunread, Option.or_none]

/-- The columns of a table that is told by a document in which nothing is missing. -/
theorem tableOutcome_of_lookup (hnone : doc.firstMissing? = none) {table : String}
    {es : List (Entry String)} (hes : (contents doc).lookup table = some es) {base : Columns}
    (hbase : Schema.standard.tables.lookup table = some base) :
    tableOutcome table es =
      .ok (base.map fun (column, name) => (column, Columns.get (contents es) column name)) := by
  have hmissing : missingColumn? (requiredColumns table) es = none :=
    List.findSome?_eq_none_iff.mp hnone (table, es) (mem_of_lookup_eq_some hes)
  rw [tableOutcome, overlaid, hmissing, hbase, Option.getD_some]

/-- A document in which nothing is missing comes to the names that it tells and the default ones. -/
theorem name?_toSchema (h : doc.Describes c) (hnone : doc.firstMissing? = none) {p : Parts}
    (hp : ∀ table, p.table? table =
      ((contents doc).lookup table).bind fun es => (tableOutcome table es).toOption)
    (table column : String) :
    p.toSchema.name? table column =
      if doc.keeps table column then c.name? table column
      else Schema.standard.name? table column := by
  rw [name?, tables_toSchema, lookup_map_snd fun table columns => (p.table? table).getD columns, hp,
    keeps]
  cases hes : (contents doc).lookup table with
  | none =>
    rw [Option.any_none, if_neg Bool.false_ne_true, name?]
    cases Schema.standard.tables.lookup table <;> rfl
  | some es =>
    -- The default table has the same columns as the one that is described, so it has a name for
    -- each column that is told.
    obtain ⟨part, hpart, hdescribes⟩ := Json.Describes.of_lookup h hes
    have hnames := lookup_names c Schema.standard table
    rw [hpart] at hnames
    obtain ⟨base, hbase, hsame⟩ := Option.map_eq_some_iff.mp hnames.symm
    rw [Option.bind_some, tableOutcome_of_lookup hnone hes hbase, Option.any_some, name?, name?,
      hpart, hbase]
    simp only [Except.toOption, Option.map_some, Option.getD_some, Option.bind_some,
      lookup_map_snd fun column name => Columns.get (contents es) column name, decide_eq_true_iff]
    cases htext : (contents es).lookup column with
    | none =>
      rw [if_neg (lookup_contents_eq_none_iff.mp htext)]
      simp only [Columns.get, htext, Option.getD_none, Option.map_id']
    | some text =>
      obtain ⟨_, hcolumn, rfl⟩ := hdescribes.of_lookup htext
      have hkept : column ∈ toldKeys es :=
        List.mem_map_of_mem (mem_of_lookup_eq_some htext)
      have hsome : (base.lookup column).isSome := by
        rw [isSome_lookup, hsame, decide_eq_true_iff]
        exact List.mem_map_of_mem (mem_of_lookup_eq_some hcolumn)
      obtain ⟨name, hname⟩ := Option.isSome_iff_exists.mp hsome
      rw [if_pos hkept, hcolumn, hname, Option.map_some, Columns.get, htext, Option.getD_some]

/-- A document is read as what its members come to. -/
theorem load_of_collects {text : String} (hscan : Json.scan text = doc.tokens)
    {result : Except Json.Fault Parts}
    (h : Json.Collects Parts.fields 126 ⟨none, none, none, none, none, none⟩
      (doc.map (Entry.member textTokens)) result) :
    Schema.load (some text.toUTF8) = (result.map Parts.toSchema).mapError .json := by
  have hyields : Yields (Schema.reader Json.maxLevels) doc.tokens (result.map Parts.toSchema) := by
    -- The object is one of the 127 levels, and no table has to be told, so nothing is left to check.
    have hrecord := (Json.yields_record h).map Parts.toSchema
    cases result <;> exact hrecord
  have htext : String.fromUTF8? text.toUTF8 = some text := dif_pos text.isValidUTF8
  rw [Schema.load]
  simp only [htext, Schema.ofJson, Json.read_of_yields hscan hyields]

end Schema.Document

/-! ### Schemas with the same names -/

theorem Schema.isSome_name? (s s' : Schema) (table column : String) :
    (s.name? table column).isSome = (s'.name? table column).isSome := by
  have hnames : ∀ s : Schema, (s.name? table column).isSome =
      ((s.tables.lookup table).map (·.map Prod.fst)).any fun names => decide (column ∈ names) := by
    intro s
    rw [name?]
    cases s.tables.lookup table with
    | none => rfl
    | some columns => exact isSome_lookup column columns
  rw [hnames, hnames, lookup_names s s']

theorem Schema.tables_injective {s s' : Schema} (h : s.tables = s'.tables) : s = s' := by
  obtain ⟨⟨⟩, ⟨⟩, ⟨⟩, ⟨⟩, ⟨⟩, ⟨⟩⟩ := s
  obtain ⟨⟨⟩, ⟨⟩, ⟨⟩, ⟨⟩, ⟨⟩, ⟨⟩⟩ := s'
  simpa [tables, TracksTable.columns, AlbumsTable.columns, NamedTable.columns, LinkTable.columns,
    and_assoc] using h

/-- A schema is given by its names. -/
theorem Schema.ext_name? {s s' : Schema}
    (h : ∀ table column, s.name? table column = s'.name? table column) : s = s' := by
  have htables : ∀ s : Schema, s.tables = Schema.standard.tables.map fun (table, columns) =>
      (table, columns.map fun (column, _) => (column, (s.name? table column).getD "")) :=
    fun _ => rfl
  refine tables_injective ?_
  rw [htables s, htables s']
  simp only [h]

/-! ### Loading -/

namespace Schema.Document

variable {c : Schema} {doc : Document} {text : String}

theorem load_of_firstMissing? (h : doc.Describes c) (hscan : Json.scan text = doc.tokens)
    {column : String} (hcolumn : doc.firstMissing? = some column) :
    Schema.load (some text.toUTF8) = .error (.json (.missingField column)) :=
  load_of_collects hscan (h.collects.1 column hcolumn)

theorem exists_load (h : doc.Describes c) (hscan : Json.scan text = doc.tokens)
    (hnone : doc.firstMissing? = none) :
    ∃ s, Schema.load (some text.toUTF8) = .ok s ∧ ∀ table column, s.name? table column =
      if doc.keeps table column then c.name? table column
      else Schema.standard.name? table column := by
  obtain ⟨p, hcollects, hp⟩ := h.collects.2 hnone
  exact ⟨p.toSchema, load_of_collects hscan hcollects, name?_toSchema h hnone hp⟩

/-- What a table has to tell is something that every schema has. -/
theorem isSome_of_mem_requiredColumns (c : Schema) {table column : String}
    (h : column ∈ requiredColumns table) : (c.name? table column).isSome := by
  unfold requiredColumns at h
  split_ifs at h with hnamed hlink
  · rw [List.mem_singleton] at h
    rcases hnamed with rfl | rfl <;> rw [h] <;> rfl
  · rw [List.mem_cons, List.mem_singleton] at h
    rcases hlink with rfl | rfl <;> rcases h with rfl | rfl <;> rfl
  · cases h

/-- Nothing is missing in a document that leaves nothing out. -/
theorem firstMissing?_of_keeps (h : doc.Describes c)
    (hkeeps : ∀ table column, (c.name? table column).isSome → doc.keeps table column) :
    doc.firstMissing? = none := by
  refine List.findSome?_eq_none_iff.mpr fun (table, es) hes => ?_
  refine List.find?_eq_none.mpr fun column hcolumn => ?_
  have hkept := hkeeps table column (isSome_of_mem_requiredColumns c hcolumn)
  rw [keeps, lookup_eq_some_of_mem h.nodup hes, Option.any_some] at hkept
  simpa only [decide_eq_true_iff, not_not] using hkept

theorem load_of_keeps (h : doc.Describes c) (hscan : Json.scan text = doc.tokens)
    (hkeeps : ∀ table column, (c.name? table column).isSome → doc.keeps table column) :
    Schema.load (some text.toUTF8) = .ok c := by
  obtain ⟨s, hload, hs⟩ := exists_load h hscan (firstMissing?_of_keeps h hkeeps)
  have heq : s = c := by
    refine ext_name? fun table column => (hs table column).trans ?_
    by_cases hkept : doc.keeps table column
    · exact if_pos hkept
    · have hnone := mt (hkeeps table column) hkept
      rw [if_neg hkept, Option.not_isSome_iff_eq_none.mp hnone]
      rw [isSome_name? c standard] at hnone
      exact Option.not_isSome_iff_eq_none.mp hnone
  rw [hload, heq]

end Schema.Document

/-! ### A schema as it is written -/

/-- The document that tells all of a schema. -/
def Schema.document (c : Schema) : Schema.Document :=
  toldAll (toldAll id) c.tables

theorem Schema.scan_compact_toJson (c : Schema) :
    Json.scan (Json.compact c.toJson) = c.document.tokens := by
  -- A table is an object of texts, and the schema is an object of tables.
  have hcolumns : ∀ columns : Columns,
      Json.tokens (.strings columns) = textTokens (toldAll id columns) := by
    intro columns
    rw [Json.strings, Json.tokens_object, textTokens, entriesTokens, toldAll, List.map_map,
      List.map_map]
    rfl
  have htables : c.toJson = .object (c.tables.map fun (table, columns) =>
    (table, .strings columns)) := rfl
  rw [Json.scan_compact, htables, Json.tokens_object, document, Document.tokens, entriesTokens,
    toldAll, List.map_map, List.map_map]
  refine congrArg _ (List.map_congr_left fun entry _ => ?_)
  exact congrArg (entry.1, ·) (hcolumns entry.2)

theorem Schema.describes_document (c : Schema) : c.document.Describes c := by
  have hnames : c.tables.map (·.2.map Prod.fst) = Schema.standard.tables.map (·.2.map Prod.fst) :=
    rfl
  have hnodup : ∀ names ∈ Schema.standard.tables.map (·.2.map Prod.fst), names.Nodup := by decide
  have htables : (Schema.standard.tables.map Prod.fst).Nodup := by decide
  refine describes_toldAll htables fun entry hentry => ?_
  refine describes_toldAll (hnodup _ ?_) fun _ _ => rfl
  rw [← hnames]
  exact List.mem_map_of_mem hentry

theorem Schema.keeps_document (c : Schema) {table column : String}
    (h : (c.name? table column).isSome) : c.document.keeps table column := by
  rw [document, Document.keeps, Json.contents_toldAll, lookup_map_snd fun _ => toldAll id,
    Option.any_map]
  rw [name?] at h
  cases hcolumns : c.tables.lookup table with
  | none =>
    rw [hcolumns] at h
    cases h
  | some columns =>
    rw [hcolumns, Option.bind_some, isSome_lookup] at h
    rw [Option.any_some, Json.toldKeys_toldAll]
    exact h

/-- What is written of a schema is read as the schema. -/
theorem Schema.load_compact_toJson (c : Schema) :
    Schema.load (some (Json.compact c.toJson).toUTF8) = .ok c :=
  Document.load_of_keeps c.describes_document c.scan_compact_toJson fun _ _ => c.keeps_document

/-- The text of a document that tells some of a schema `c`, in any layout and any order and with
anything else in it, is read as `c` with the default names in place of what it leaves out, and as `c`
if it leaves out nothing. Only a table without a column that it has to tell is a fault, which names
the first such column. All of `c` as it is written is read as `c`. -/
theorem Schema.load_described {c : Schema} {doc : Document} {text : String} (h : doc.Describes c)
    (hscan : Json.scan text = doc.tokens) :
    (∀ column, doc.firstMissing? = some column →
      Schema.load (some text.toUTF8) = .error (.json (.missingField column))) ∧
    (doc.firstMissing? = none → ∃ s, Schema.load (some text.toUTF8) = .ok s ∧
      ∀ table column, s.name? table column =
        if doc.keeps table column then c.name? table column
        else Schema.standard.name? table column) ∧
    ((∀ table column, (c.name? table column).isSome → doc.keeps table column) →
      Schema.load (some text.toUTF8) = .ok c) ∧
    Schema.load (some (Json.compact c.toJson).toUTF8) = .ok c :=
  ⟨fun _ => Document.load_of_firstMissing? h hscan, Document.exists_load h hscan,
    Document.load_of_keeps h hscan, c.load_compact_toJson⟩

/-- Tables and columns that are left out have their default names, whatever the schema has for
them. -/
theorem Schema.load_described_twoTables : ∃ s,
    Schema.load (some ("\x7b \"labels\": \x7b\"name\": \"title\", \"table\": \"Label\"\x7d,\n" ++
      "  \"x\": [1, null], \"tracks\": \x7b\"x\": true, \"id\": \"key\"\x7d \x7d").toUTF8) = .ok s ∧
    s.name? "labels" "name" = some "title" ∧ s.name? "tracks" "table" = some "tracks" ∧
    s.name? "albums" "name" = some "name" := by
  have hlabels : Json.Describes Eq (NamedTable.columns ⟨"Label", "id", "title"⟩)
      [.told "name" "title", .told "table" "Label"] := by
    refine ⟨by decide, fun key text hmem => ⟨text, ?_, rfl⟩, fun key value hmem => ?_⟩
    · simp only [List.mem_cons, List.not_mem_nil, or_false, Entry.told.injEq] at hmem
      rcases hmem with ⟨rfl, rfl⟩ | ⟨rfl, rfl⟩ <;> rfl
    · simp only [List.mem_cons, List.not_mem_nil, or_false, reduceCtorEq] at hmem
  have htracks : Json.Describes Eq (TracksTable.columns { Schema.standard.tracks with
      table := "Track", id := "key" }) [.other "x" [.bool true], .told "id" "key"] := by
    refine ⟨by decide, fun key text hmem => ⟨text, ?_, rfl⟩, fun key value hmem => ?_⟩
    · simp only [List.mem_cons, List.not_mem_nil, or_false, reduceCtorEq, false_or,
        Entry.told.injEq] at hmem
      obtain ⟨rfl, rfl⟩ := hmem
      rfl
    · simp only [List.mem_cons, List.not_mem_nil, or_false, reduceCtorEq,
        Entry.other.injEq] at hmem
      obtain ⟨rfl, rfl⟩ := hmem
      exact ⟨rfl, .bool true⟩
  have h : Document.Describes { Schema.standard with
      tracks := { Schema.standard.tracks with table := "Track", id := "key" }
      albums := { Schema.standard.albums with name := "title" }
      labels := ⟨"Label", "id", "title"⟩ }
      [.told "labels" [.told "name" "title", .told "table" "Label"],
        .other "x" [.leftBracket, .number, .comma, .null, .rightBracket],
        .told "tracks" [.other "x" [.bool true], .told "id" "key"]] := by
    refine ⟨by decide, fun key es hmem => ?_, fun key value hmem => ?_⟩
    · simp only [List.mem_cons, List.not_mem_nil, or_false, reduceCtorEq, false_or,
        Entry.told.injEq] at hmem
      rcases hmem with ⟨rfl, rfl⟩ | ⟨rfl, rfl⟩
      · exact ⟨_, rfl, hlabels⟩
      · exact ⟨_, rfl, htracks⟩
    · simp only [List.mem_cons, List.not_mem_nil, or_false, reduceCtorEq, false_or,
        Entry.other.injEq] at hmem
      obtain ⟨rfl, rfl⟩ := hmem
      exact ⟨rfl, .array (.moreItems .number (.item .null))⟩
  refine ((Schema.load_described h ?_).2.1 (by decide)).imp fun s hs =>
    ⟨hs.1, (hs.2 _ _).trans (by decide), (hs.2 _ _).trans (by decide),
      (hs.2 _ _).trans (by decide)⟩
  decide +kernel

end TrackCriteria
