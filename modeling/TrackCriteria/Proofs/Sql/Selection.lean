import TrackCriteria.Proofs.Calendar.Instant
import TrackCriteria.Proofs.Sql.Store
import TrackCriteria.Sql.Selection
import Mathlib.Data.List.Nodup
import Mathlib.Tactic.Set

/-!
# Correctness of selections

The condition of a predicate holds on a row of the table of tracks iff the track that the row stands
for satisfies the predicate. By `Condition.eval?_bind` this comes down to the single tests:

* a test of the track itself compares a column of the row (`eval?_track`);
* a test of the album finds the one row of the album among those that pass (`eval?_albumWhere`);
* a test for any link finds the links of the track (`eval?_links`), and a test for a name finds the
  pairs of a link and the row it leads to (`eval?_linksTo`).
-/

namespace TrackCriteria

open Calendar (Instant)
open Sql

/-! ### Bounds -/

/-- A bound contains the instants that compare with its own as asked for. -/
theorem Bound.holds_comparison (b : Bound) (t : Instant) :
    b.kind.comparison.holds (.instant t) (.instant b.instant) = b.contains t := by
  obtain ⟨kind, u⟩ := b
  cases kind <;>
    simp [Kind.comparison, Comparison.holds, Datum.lt, contains, le_iff_lt_or_eq, eq_comm]

/-! ### Names of tables -/

namespace Schema

variable {s : Schema}

/-- The row of a track is in sight under the name of its table. -/
def sight (s : Schema) (row : Row) : Scope :=
  [(s.tracks.table, row)]

theorem read?_track (s : Schema) (row : Row) (name : TracksTable → String) :
    (s.sight row).read? (s.track name) = row (name s.tracks) :=
  Scope.read?_cons_self ..

/-- A row of another table does not hide the row of the track. -/
theorem read?_track_cons {table : String} (h : table ≠ s.tracks.table) (other : Row)
    (scope : Scope) (name : TracksTable → String) :
    Scope.read? ((table, other) :: scope) (s.track name) = scope.read? (s.track name) :=
  Scope.read?_cons_of_ne h ..

end Schema

/-! ### Tests of the track itself -/

namespace Store

variable {s : Schema} (store : Store s) {row : Row}

theorem eval?_track {name : TracksTable → String} {a : Datum} (h : row (name s.tracks) = some a)
    (op : Comparison) (v : Value) :
    Leaf.eval? store.tables (s.sight row) (.relation ⟨s.track name, op, .value v⟩)
      = some (op.holds a v.datum) :=
  Relation.eval?_value ((s.read?_track row name).trans h) op v

/-! ### Tests of the album -/

theorem eval?_album {album : Row} {name : AlbumsTable → String} {a : Datum}
    (h : album (name s.albums) = some a) (op : Comparison) (v : Value) :
    Relation.eval? ((s.albums.table, album) :: s.sight row) ⟨s.album name, op, .value v⟩
      = some (op.holds a v.datum) :=
  Relation.eval?_value ((Scope.read?_cons_self ..).trans h) op v

theorem albumOf_mem (hrow : row ∈ store.tracks) :
    store.albumOf row ∈ store.tables s.albums.table ∧
      store.albumOf row s.albums.id = row s.tracks.albumId := by
  obtain ⟨album, hmem, hid⟩ := store.tracks_album row hrow
  have hsome : ((store.tables s.albums.table).find? fun album =>
      album s.albums.id = row s.tracks.albumId).isSome := by
    rw [List.find?_isSome]
    exact ⟨album, hmem, by simpa using hid⟩
  obtain ⟨found, hfound⟩ := Option.isSome_iff_exists.mp hsome
  have heq : store.albumOf row = found := by rw [albumOf, hfound, Option.getD_some]
  rw [heq]
  exact ⟨List.mem_of_find?_eq_some hfound, by simpa using List.find?_some hfound⟩

/-- Only one row of the table of albums has the album's number. -/
theorem eq_albumOf (hrow : row ∈ store.tracks) {album : Row}
    (hmem : album ∈ store.tables s.albums.table) (hid : album s.albums.id = row s.tracks.albumId) :
    album = store.albumOf row := by
  obtain ⟨hmem', hid'⟩ := store.albumOf_mem hrow
  exact List.inj_on_of_nodup_map store.albums_key hmem hmem' (hid.trans hid'.symm)

/-- Every album has a number. -/
theorem exists_albumId : ∃ number : Row → Datum,
    ∀ album ∈ store.tables s.albums.table, album s.albums.id = some (number album) := by
  refine ⟨fun album => (album s.albums.id).getD (.number 0), fun album halbum => ?_⟩
  obtain ⟨d, hd⟩ := (store.albums_fit album halbum).id
  simp only [hd, Option.getD_some]

/-- The number of the album is among those of some albums iff the album is one of them. -/
theorem contains_albumId (hrow : row ∈ store.tracks) {number : Row → Datum}
    (hnumber : ∀ album ∈ store.tables s.albums.table, album s.albums.id = some (number album))
    {d : Datum} (hd : row s.tracks.albumId = some d) (v : Row → Bool) :
    (((store.tables s.albums.table).filter v).map number).contains d = v (store.albumOf row) := by
  obtain ⟨hmem, hid⟩ := store.albumOf_mem hrow
  rw [Bool.eq_iff_iff, List.contains_iff_mem, List.mem_map]
  constructor
  · rintro ⟨album, halbum, rfl⟩
    rw [List.mem_filter] at halbum
    -- Numbers are a key, so the album that was found is the one of the track.
    have hsame := store.eq_albumOf hrow halbum.1 ((hnumber album halbum.1).trans hd.symm)
    rw [← hsame]
    exact halbum.2
  · intro hv
    refine ⟨store.albumOf row, List.mem_filter.mpr ⟨hmem, hv⟩, ?_⟩
    exact Option.some.inj ((hnumber _ hmem).symm.trans (hid.trans hd))

/-- The album is among those that satisfy a condition iff its own row does. -/
theorem eval?_albumWhere (hrow : row ∈ store.tracks) {condition : Relation} {v : Row → Bool}
    (h : ∀ album ∈ store.tables s.albums.table,
      condition.eval? ((s.albums.table, album) :: s.sight row) = some (v album)) :
    Leaf.eval? store.tables (s.sight row) (s.albumWhere condition)
      = some (v (store.albumOf row)) := by
  obtain ⟨d, hd⟩ := (store.tracks_fit row hrow).albumId
  obtain ⟨number, hnumber⟩ := store.exists_albumId
  -- The subquery keeps the albums that satisfy the condition, and returns their numbers.
  set q : Subquery := ⟨.column (s.album (·.id)), s.albums.table, none, [condition]⟩ with hq
  have hchosen : q.chosen? store.tables (s.sight row)
      = some (((store.tables s.albums.table).filter v).map
          fun album => (s.albums.table, album) :: s.sight row) := by
    refine keep?_map fun album halbum => ?_
    rw [show (q.join.map Join.on).toList ++ q.conditions = [condition] from rfl,
      Relation.all?_cons (h album halbum) (Relation.all?_nil _), Bool.and_true]
  have hresults : q.results? store.tables (s.sight row)
      = some (((store.tables s.albums.table).filter v).map number) := by
    rw [Subquery.results?, hchosen, Option.bind_eq_bind, Option.bind_some, List.mapM_map]
    refine mapM_eq_some fun album halbum => ?_
    rw [← hnumber album (List.mem_of_mem_filter halbum)]
    exact Scope.read?_cons_self ..
  rw [Schema.albumWhere, Leaf.eval?, Schema.read?_track, hd, hresults,
    ← store.contains_albumId hrow hnumber hd v]
  rfl

/-! ### Tests of the links -/

/-- There is a link iff the list of links of the track is not empty. -/
theorem eval?_links (hrow : row ∈ store.tracks) {link : LinkTable}
    (hne : link.table ≠ s.tracks.table) (hfit : ∀ l ∈ store.tables link.table, link.Fits l) :
    Leaf.eval? store.tables (s.sight row) (.exists (s.links link))
      = some (!(store.linksOf link row).isEmpty) := by
  have hchosen : (s.links link).chosen? store.tables (s.sight row)
      = some ((store.linksOf link row).map fun l => (link.table, l) :: s.sight row) := by
    refine keep?_map fun l hl => ?_
    -- The link is seen first and the track behind it, since their tables have different names.
    have htrack : (s.ofTrack link).eval? ((link.table, l) :: s.sight row)
        = some (decide (l link.trackId = row s.tracks.id)) :=
      Relation.eval?_columns (hfit l hl).trackId (store.tracks_fit row hrow).id
        (Scope.read?_cons_self ..)
        ((Schema.read?_track_cons hne ..).trans (s.read?_track row (·.id)))
    rw [← Bool.and_true (decide _)]
    exact Relation.all?_cons htrack (Relation.all?_nil _)
  rw [Leaf.eval?, hchosen, Option.bind_eq_bind, Option.bind_some, List.isEmpty_map]
  rfl

/-- Whether a link is one of the track and leads to a row of another table with a name. -/
def leads (link : LinkTable) (other : NamedTable) (row : Row) (name : String) (l o : Row) : Bool :=
  decide (o other.id = l link.otherId) &&
    (decide (l link.trackId = row s.tracks.id) && decide (o.text other.name = name))

theorem mem_namesOf {link : LinkTable} {other : NamedTable} {name : String} :
    name ∈ store.namesOf link other row ↔ ∃ l o,
      (l ∈ store.tables link.table ∧ o ∈ store.tables other.table) ∧
        leads (s := s) link other row name l o = true := by
  simp only [namesOf, linksOf, leads, List.mem_flatMap, List.mem_map, List.mem_filter,
    Bool.and_eq_true, decide_eq_true_eq]
  constructor
  · rintro ⟨l, ⟨hl, htrack⟩, o, ⟨ho, hid⟩, hname⟩
    exact ⟨l, o, ⟨hl, ho⟩, hid, htrack, hname⟩
  · rintro ⟨l, o, ⟨hl, ho⟩, hid, htrack, hname⟩
    exact ⟨l, ⟨hl, htrack⟩, o, ⟨ho, hid⟩, hname⟩

/-- The conditions of a test for a name, in sight of a link and of a row that it may lead to. -/
theorem all?_linksTo (hrow : row ∈ store.tracks) {link : LinkTable} {other : NamedTable}
    (hlink : link.table ≠ s.tracks.table) (hother : other.table ≠ s.tracks.table)
    (hne : other.table ≠ link.table) {l o : Row} (hl : link.Fits l) (ho : other.Fits o)
    (name : String) :
    Relation.all? ((other.table, o) :: (link.table, l) :: s.sight row)
        [⟨⟨other.table, other.id⟩, .eq, .column ⟨link.table, link.otherId⟩⟩, s.ofTrack link,
          Column.isEqual ⟨other.table, other.name⟩ (.string name)]
      = some (leads (s := s) link other row name l o) := by
  -- The tables have different names, so each column is read from the row that it belongs to.
  have hreadLink : ∀ column, Scope.read? ((other.table, o) :: (link.table, l) :: s.sight row)
      ⟨link.table, column⟩ = l column := by
    intro column
    rw [Scope.read?_cons_of_ne hne, Scope.read?_cons_self]
  have hreadTrack : Scope.read? ((other.table, o) :: (link.table, l) :: s.sight row)
      (s.track (·.id)) = row s.tracks.id := by
    rw [Schema.read?_track_cons hother, Schema.read?_track_cons hlink, Schema.read?_track]
  have hjoin := Relation.eval?_columns ho.id hl.otherId
    (Scope.read?_cons_self ((link.table, l) :: s.sight row) other.table other.id o)
    (hreadLink link.otherId)
  have htrack := Relation.eval?_columns hl.trackId (store.tracks_fit row hrow).id
    (hreadLink link.trackId) hreadTrack
  have hname : (Column.isEqual ⟨other.table, other.name⟩ (.string name)).eval?
      ((other.table, o) :: (link.table, l) :: s.sight row)
        = some (decide (o.text other.name = name)) := by
    have hread := (Scope.read?_cons_self ((link.table, l) :: s.sight row) other.table other.name
      o).trans (Row.eq_text ho.name)
    rw [Column.isEqual, Relation.eval?_value hread]
    simp [Comparison.holds, Value.datum]
  rw [leads, ← Bool.and_true (decide (o.text other.name = name))]
  exact Relation.all?_cons hjoin
    (Relation.all?_cons htrack (Relation.all?_cons hname (Relation.all?_nil _)))

/-- There is a link to a name iff the name is one of those that the track is linked with. -/
theorem eval?_linksTo (hrow : row ∈ store.tracks) {link : LinkTable} {other : NamedTable}
    (hlink : link.table ≠ s.tracks.table) (hother : other.table ≠ s.tracks.table)
    (hne : other.table ≠ link.table) (hl : ∀ l ∈ store.tables link.table, link.Fits l)
    (ho : ∀ o ∈ store.tables other.table, other.Fits o) (name : String) :
    Leaf.eval? store.tables (s.sight row) (.exists (s.linksTo link other name))
      = some ((store.namesOf link other row).contains name) := by
  set pairs : List (Row × Row) := store.tables link.table ×ˢ store.tables other.table
  set kept : List (Row × Row) :=
    pairs.filter fun pair => leads (s := s) link other row name pair.1 pair.2 with hkept
  have hchosen : (s.linksTo link other name).chosen? store.tables (s.sight row)
      = some (kept.map fun pair =>
          (other.table, pair.2) :: (link.table, pair.1) :: s.sight row) := by
    refine keep?_map fun pair hpair => ?_
    obtain ⟨hmeml, hmemo⟩ := List.mem_product.mp hpair
    exact store.all?_linksTo hrow hlink hother hne (hl _ hmeml) (ho _ hmemo) name
  -- A pair is kept iff it leads from the track to the name, so there is one iff the name is linked.
  have hempty : (!kept.isEmpty) = (store.namesOf link other row).contains name := by
    rw [Bool.eq_iff_iff, List.contains_iff_mem, store.mem_namesOf, Bool.not_eq_true',
      List.isEmpty_eq_false_iff_exists_mem]
    simp only [hkept, List.mem_filter, Prod.exists, pairs, List.mem_product]
  rw [Leaf.eval?, hchosen, Option.bind_eq_bind, Option.bind_some, List.isEmpty_map, hempty]
  rfl

/-! ### Tests -/

/-- Every link of the track leads to a name, so a track without names has no links. -/
theorem namesOf_eq_nil_iff {link : LinkTable} {other : NamedTable}
    (href : ∀ l ∈ store.tables link.table,
      RefersTo l link.otherId (store.tables other.table) other.id) :
    store.namesOf link other row = [] ↔ store.linksOf link row = [] := by
  constructor
  · intro hnames
    -- A link would lead to a row, and the name in it would be in the list.
    by_contra hlinks
    obtain ⟨l, hl⟩ := List.exists_mem_of_ne_nil _ hlinks
    obtain ⟨o, ho, hid⟩ := href l (List.mem_of_mem_filter hl)
    have hmem : o.text other.name ∈ store.namesOf link other row := by
      rw [namesOf, List.mem_flatMap]
      exact ⟨l, hl, List.mem_map_of_mem (List.mem_filter.mpr ⟨ho, by simpa using hid⟩)⟩
    rw [hnames] at hmem
    exact List.not_mem_nil hmem
  · intro hlinks
    rw [namesOf, hlinks, List.flatMap_nil]

/-- A text is equal to a value of a query iff it is its text. -/
theorem holds_eq_text (a b : String) :
    Comparison.eq.holds (.text a) (Value.string b).datum = [a].contains b := by
  rw [Bool.eq_iff_iff]
  simp [Comparison.holds, Value.datum, eq_comm]

/-- The condition of a test holds on a row iff the track of the row passes the test. -/
theorem eval?_testCondition (hs : s.tableNames.Nodup) (hrow : row ∈ store.tracks) (t : Test) :
    Condition.eval? store.tables (s.sight row) (s.testCondition t)
      = some (t.matches (store.track row)) := by
  have hfit := store.tracks_fit row hrow
  simp only [Schema.tableNames, List.nodup_cons, List.mem_cons, List.not_mem_nil, or_false,
    not_or] at hs
  obtain ⟨⟨-, hartists, htrackArtists, hlabels, htrackLabels⟩, -, ⟨hartist, -⟩, -, hlabel, -⟩ := hs
  -- Flags, the name and the date are columns of the track; the album is looked up through its key;
  -- labels and artists are found through their links.
  cases t with
  | clean =>
    refine (store.eval?_track (Row.eq_bool hfit.explicit) .eq (.bool false)).trans ?_
    simp [Comparison.holds, Value.datum, Test.matches, track]
  | explicit =>
    refine (store.eval?_track (Row.eq_bool hfit.explicit) .eq (.bool true)).trans ?_
    simp [Comparison.holds, Value.datum, Test.matches, track]
  | unlabeled =>
    -- The condition asks for links and the track has names. Every link has a label, so one list is
    -- empty iff the other one is.
    have hlinks := store.eval?_links hrow (Ne.symm htrackLabels) store.trackLabels_fit
    have hempty : store.namesOf s.trackLabels s.labels row = [] ↔
        store.linksOf s.trackLabels row = [] := store.namesOf_eq_nil_iff store.trackLabels_label
    rw [Schema.testCondition, Condition.eval?, Condition.eval?, hlinks, Test.matches, track,
      Bool.eq_iff_iff.mpr (List.isEmpty_iff.trans (hempty.trans List.isEmpty_iff.symm))]
    simp
  | text field value =>
    cases field with
    | name =>
      refine (store.eval?_track (Row.eq_text hfit.name) .eq (.string value)).trans ?_
      rw [holds_eq_text]
      rfl
    | label =>
      exact store.eval?_linksTo hrow (Ne.symm htrackLabels) (Ne.symm hlabels) hlabel
        store.trackLabels_fit store.labels_fit value
    | album =>
      refine (store.eval?_albumWhere hrow fun album hmem =>
        eval?_album (Row.eq_text (store.albums_fit album hmem).name) .eq (.string value)).trans ?_
      rw [holds_eq_text]
      rfl
    | artist =>
      exact store.eval?_linksTo hrow (Ne.symm htrackArtists) (Ne.symm hartists) hartist
        store.trackArtists_fit store.artists_fit value
  | date field bound =>
    cases field with
    | added =>
      refine (store.eval?_track (Row.eq_instant hfit.dateAdded) _ (.instant bound.instant)).trans ?_
      rw [Value.datum, bound.holds_comparison]
      rfl
    | released =>
      refine (store.eval?_albumWhere hrow fun album hmem =>
        eval?_album (Row.eq_instant (store.albums_fit album hmem).releaseDate) _
          (.instant bound.instant)).trans ?_
      rw [Value.datum, bound.holds_comparison]
      rfl

/-! ### Predicates -/

/-- The condition of a predicate holds on a row iff the track of the row satisfies it. -/
theorem eval?_condition (hs : s.tableNames.Nodup) (hrow : row ∈ store.tracks) (p : Predicate) :
    Condition.eval? store.tables (s.sight row) (s.condition p)
      = some (p.matches (store.track row)) :=
  Condition.eval?_bind (store.eval?_testCondition hs hrow) p

/-- The rows of a user's tracks that satisfy a predicate. -/
def matching (p : Predicate) (userId : Int) : List Row :=
  store.tracks.filter fun row =>
    row s.tracks.userId = some (.number userId) && p.matches (store.track row)

theorem rows?_selectTracks (hs : s.tableNames.Nodup) (p : Predicate) (userId : Int)
    (limit : Option Nat) :
    (s.selectTracks (some p) userId limit).rows? store.tables
      = some (store.matching p userId) := by
  refine keep?_eq_some fun row hrow => ?_
  obtain ⟨n, hn⟩ := (store.tracks_fit row hrow).userId
  -- The owner of a row is never missing, so the comparison is true or false.
  have howner : Relation.eval? (s.sight row) ((s.track (·.userId)).isEqual (.bigint userId))
      = some (decide (row s.tracks.userId = some (.number userId))) := by
    rw [Column.isEqual, Relation.eval?_value ((s.read?_track row _).trans hn), hn]
    simp [Comparison.holds, Value.datum]
  show (do
    let owned ← Relation.eval? (s.sight row) ((s.track (·.userId)).isEqual (.bigint userId))
    let satisfied ← Condition.eval? store.tables (s.sight row) (s.condition p)
    return owned && satisfied) = _
  rw [howner, store.eval?_condition hs hrow p]
  rfl

/-- **The database and the memory agree.** On the tables of any store, the condition of a predicate
has a meaning for every row of the table of tracks and holds iff the track of that row satisfies the
predicate. Hence a selection without a limit answers with the user's matching rows, and one with a
limit with as many of them as the limit allows. -/
theorem selection_agrees (hs : s.tableNames.Nodup) (p : Predicate) :
    (∀ row ∈ store.tracks,
      Condition.eval? store.tables (s.sight row) (s.condition p)
        = some (p.matches (store.track row))) ∧
    (∀ userId answer,
      (s.selectTracks (some p) userId none).IsAnswer store.tables answer ↔
        answer.Perm (store.matching p userId)) ∧
    ∀ userId limit answer,
      (s.selectTracks (some p) userId (some limit)).IsAnswer store.tables answer ↔
        answer.Subperm (store.matching p userId) ∧
          answer.length = min limit (store.matching p userId).length := by
  refine ⟨fun row hrow => store.eval?_condition hs hrow p, fun userId answer => ?_,
    fun userId limit answer => ?_⟩
  · exact Select.isAnswer_iff (store.rows?_selectTracks hs p userId none)
  · exact Select.isAnswer_iff (store.rows?_selectTracks hs p userId (some limit))

/-! ### A store of two tracks -/

/-- The row with some cells and no others. -/
def ofCells (cells : List (String × Datum)) : Row := fun column => cells.lookup column

/-- The row of a clean track of user 7 that is linked with an artist. -/
def calmRow : Row :=
  ofCells [("id", .number 1), ("user_id", .number 7), ("name", .text "Calm"),
    ("explicit", .bool false), ("album_id", .number 10), ("date_added", .instant .first)]

/-- The row of an explicit track of user 7 that is linked with a label. -/
def loudRow : Row :=
  ofCells [("id", .number 2), ("user_id", .number 7), ("name", .text "Loud"),
    ("explicit", .bool true), ("album_id", .number 10), ("date_added", .instant .last)]

/-- The tables of both tracks. -/
def twoTracksTables : Tables
  | "tracks" => [calmRow, loudRow]
  | "albums" =>
    [ofCells [("id", .number 10), ("name", .text "Both"), ("release_date", .instant .first)]]
  | "artists" => [ofCells [("id", .number 20), ("name", .text "Quiet One")]]
  | "track_artists" => [ofCells [("track_id", .number 1), ("artist_id", .number 20)]]
  | "labels" => [ofCells [("id", .number 30), ("name", .text "Road Trip")]]
  | "track_labels" => [ofCells [("track_id", .number 2), ("label_id", .number 30)]]
  | _ => []

/-- The store of both tracks. -/
def twoTracks : Store Schema.standard where
  tables := twoTracksTables
  tracks_fit := List.forall_mem_cons.mpr
    ⟨⟨⟨_, rfl⟩, ⟨_, rfl⟩, ⟨_, rfl⟩, ⟨_, rfl⟩, ⟨_, rfl⟩, ⟨_, rfl⟩⟩,
      List.forall_mem_singleton.mpr
        ⟨⟨_, rfl⟩, ⟨_, rfl⟩, ⟨_, rfl⟩, ⟨_, rfl⟩, ⟨_, rfl⟩, ⟨_, rfl⟩⟩⟩
  albums_fit := List.forall_mem_singleton.mpr ⟨⟨_, rfl⟩, ⟨_, rfl⟩, ⟨_, rfl⟩⟩
  artists_fit := List.forall_mem_singleton.mpr ⟨⟨_, rfl⟩, ⟨_, rfl⟩⟩
  labels_fit := List.forall_mem_singleton.mpr ⟨⟨_, rfl⟩, ⟨_, rfl⟩⟩
  trackArtists_fit := List.forall_mem_singleton.mpr ⟨⟨_, rfl⟩, ⟨_, rfl⟩⟩
  trackLabels_fit := List.forall_mem_singleton.mpr ⟨⟨_, rfl⟩, ⟨_, rfl⟩⟩
  tracks_key := by decide
  albums_key := by decide
  artists_key := by decide
  labels_key := by decide
  tracks_album := by decide
  trackArtists_track := by decide
  trackArtists_artist := by decide
  trackLabels_track := by decide
  trackLabels_label := by decide

/-- Tracks without a label or with a label `Road Trip`, of an album that is not called `Loud`. -/
def roadTrip : Predicate :=
  .and (.or (.atom .unlabeled) (.atom (.text .label "Road Trip")))
    (.not (.atom (.text .album "Loud")))

/-- Both tracks are selected, and one of them if one is asked for. -/
theorem selection_agrees_twoTracks :
    Schema.standard.tableNames.Nodup ∧ loudRow ∈ twoTracks.tracks ∧
      Condition.eval? twoTracks.tables (Schema.standard.sight loudRow)
        (Schema.standard.condition roadTrip) = some true ∧
      (Schema.standard.selectTracks (some roadTrip) 7 (some 1)).IsAnswer twoTracks.tables
        [loudRow] := by
  have hs : Schema.standard.tableNames.Nodup := by decide
  have hmem : loudRow ∈ twoTracks.tracks := List.mem_cons_of_mem _ (List.mem_cons_self ..)
  obtain ⟨heval, -, hlimited⟩ := twoTracks.selection_agrees hs roadTrip
  have hmatches : roadTrip.matches (twoTracks.track loudRow) = true := by decide
  have hall : twoTracks.matching roadTrip 7 = [calmRow, loudRow] := by rfl
  refine ⟨hs, hmem, (heval loudRow hmem).trans (congrArg some hmatches), ?_⟩
  rw [hlimited, hall]
  exact ⟨List.Sublist.subperm (List.sublist_cons_self ..), rfl⟩

end Store

end TrackCriteria
