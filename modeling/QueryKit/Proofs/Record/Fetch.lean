import QueryKit.Proofs.Binding
import QueryKit.Proofs.Helper
import QueryKit.Proofs.Record.Description

/-! Records fetched by the statement that lists their columns. The statement names the columns with
the separator of its settings, and a record finds them with the separator that the rows bear. A
database gives its rows the separator of its settings, so a statement that inherited them fetches its
records. The rows of a bare client bear a separator of their own, and then records are fetched
exactly if it gives their columns the same names. -/

namespace QueryKit

open Check

/-! ### Statements that list a record -/

/-- The name that a selected column has in a result. -/
def Selection.resultName? (s : Selection) : Option String :=
  match s.aliasName, s.column with
  | some aliasName, _ => some aliasName
  | none, .path parts => parts.getLast?
  | none, .verbatim _ => none

theorem Selection.resultName?_qualified (table name : String) :
    resultName? ⟨.qualified (some table) name, none⟩ = some name := by
  unfold Column.qualified
  by_cases h : table.isEmpty <;> simp [h, resultName?, Column.named]

namespace Select

/-- The statement selects the columns of a record under a table, named with the separator of its
settings, and nothing else. -/
def Lists (q : Select) (fields : List Field) (table : String) : Prop :=
  q.selections = (Field.columns fields table q.settings.separator).map fun c => ⟨c, none⟩

theorem lists_record {q : Select} (h : q.selections = []) (fields : List Field) (table : String) :
    (q.record fields table).Lists fields table := by
  simp [Lists, record, columns, h]

theorem Lists.resultNames {q : Select} {fields : List Field} {table : String}
    (h : q.Lists fields table) :
    q.selections.map Selection.resultName? =
      (Field.allNames q.settings.separator "" fields).map some := by
  rw [h, Field.columns, List.map_map, List.map_map]
  exact List.map_congr_left fun name _ => Selection.resultName?_qualified table name

end Select

/-! ### Rows that a client answers -/

section Fetching

variable {α : Type} {draft : Draft} {s : Statement}

theorem Cursor.drain_rows {h : Header} (read : Row h → Except Error α) (rows : List (Row h)) :
    (drain read (rows.map .ok)).1 = rows.mapM read := by
  induction rows with
  | nil => rfl
  | cons row rows ih =>
    rw [List.map_cons, List.mapM_cons, ← ih, drain]
    cases read row with
    | error e => rfl
    | ok x =>
      generalize drain read (rows.map .ok) = outcome
      obtain ⟨result, left⟩ := outcome
      cases result <;> rfl

theorem Draft.result_fetchAll (h : draft.build = .ok s) (c : Connection) (reader : RowReader α) :
    (draft.fetchAll c reader).result =
      (c.query s.text s.operands).result.bind fun rows => rows.rows.mapM reader.read := by
  have hmany (rows : RowSet) : ((Cursor.ofRows rows).many reader).result =
      rows.rows.mapM reader.read := by
    rw [Cursor.many_eq]
    exact Cursor.drain_rows reader.read rows.rows
  simp only [Draft.fetchAll, Draft.query, Draft.on, h, Run.andThen, hmany]

namespace Database

theorem fetchAll_eq (db : Database) (draft : Draft) (reader : RowReader α) :
    db.fetchAll draft reader = draft.fetchAll db.asConnection reader :=
  (Task.fetchAll reader).onDatabase_eq draft db

/-- The statement is answered within the time limit. -/
def InTime (db : Database) (s : Statement) : Prop :=
  ∀ limit, db.settings.timeout = some limit →
    (db.connection.query s.text s.operands).latency.nanos ≤ limit.nanos

/-- The rows bear the separator of the settings, whichever they came with. -/
theorem result_query {db : Database} {rows : RowSet} (htime : db.InTime s)
    (hrows : (db.connection.query s.text s.operands).result = .ok rows) :
    (db.query s.text s.operands).result = .ok (rows.withSeparator db.settings.separator) := by
  have hlimited := InLimit.limited_eq (r := db.connection.query s.text s.operands) htime
  simp only [query, watched, hlimited, Run.andThen, hrows]
  rfl

end Database

end Fetching

/-! ### Leaves under two separators -/

theorem Leaf.zipWith_mk (leaves : List Leaf) :
    List.zipWith Leaf.mk (leaves.map name) (leaves.map type) = leaves := by
  induction leaves with
  | nil => rfl
  | cons l leaves ih => simp only [List.map_cons, List.zipWith_cons_cons, ih]

namespace Member

mutual

theorem types_leaves (separator separator' : String) : (m : Member) → (scope scope' : String) →
    (leaves separator scope m).map Leaf.type = (leaves separator' scope' m).map Leaf.type
  | column _ _ _, _, _ => rfl
  | embedded _ _ members, _, _ => types_allLeaves separator separator' members _ _
  | inline _ members, _, _ => types_allLeaves separator separator' members _ _
  | skipped _ _, _, _ => rfl

theorem types_allLeaves (separator separator' : String) : (ms : List Member) →
    (scope scope' : String) →
    (allLeaves separator scope ms).map Leaf.type = (allLeaves separator' scope' ms).map Leaf.type
  | [], _, _ => rfl
  | m :: ms, scope, scope' => by
    rw [allLeaves, allLeaves, List.map_append, List.map_append,
      types_leaves separator separator' m scope scope',
      types_allLeaves separator separator' ms scope scope']

end

/-- Two separators that give the columns of a record the same names are read alike. -/
theorem allLeaves_congr {separator separator' : String} {ms : List Member}
    (h : Field.allNames separator "" (allColumns ms) =
      Field.allNames separator' "" (allColumns ms)) :
    allLeaves separator "" ms = allLeaves separator' "" ms := by
  rw [← names_allLeaves, ← names_allLeaves] at h
  rw [← Leaf.zipWith_mk (allLeaves separator "" ms), h,
    types_allLeaves separator separator' ms "" "", Leaf.zipWith_mk]

mutual

/-- What a field holds tells what it was filled with. -/
theorem Fills.carried_unique : {m : Member} → {vs ws : List Carried} → {f : String × Reading} →
    Fills m vs f → Fills m ws f → vs = ws
  | _, _, _, _, .column, .column => rfl
  | _, _, _, _, .embedded filled, .embedded filled' => filled.carried_unique filled'
  | _, _, _, _, .inline filled, .inline filled' => filled.carried_unique filled'
  | _, _, _, _, .skipped, .skipped => rfl

theorem FillsAll.carried_unique : {ms : List Member} → {vs ws : List Carried} →
    {fs : List (String × Reading)} → FillsAll ms vs fs → FillsAll ms ws fs → vs = ws
  | [], _, _, _, .nil, .nil => rfl
  | _ :: _, _, _, _, .cons first rest, .cons first' rest' => by
    rw [first.carried_unique first', rest.carried_unique rest']

end

end Member

/-! ### Rows that tell leaves apart -/

/-- A value and what it is read as. -/
structure ColumnType.Sample (t : ColumnType) where
  value : Value
  carrier : t.Carrier
  reads : t.read value = .ok carrier

/-- At every type two values can be told apart, one of which is not missing. -/
theorem ColumnType.exists_samples (t : ColumnType) :
    ∃ low high : t.Sample, high.value.isNull = false ∧ low.carrier ≠ high.carrier := by
  let early : Timestamp := unixEpoch
  let late : Timestamp := ⟨⟨1971, 1, 1, rfl⟩, ⟨1, 0, 0, 0, rfl⟩⟩
  induction t with
  | value => exact ⟨⟨.bool false, _, rfl⟩, ⟨.bool true, _, rfl⟩, rfl, by simp⟩
  | bool => exact ⟨⟨.bool false, _, rfl⟩, ⟨.bool true, _, rfl⟩, rfl, by simp⟩
  | int w =>
    refine ⟨⟨.bool false, _, rfl⟩, ⟨.bool true, _, rfl⟩, rfl, fun h => ?_⟩
    simpa [IntType.ofBool] using congrArg Subtype.val h
  | single => exact ⟨⟨.int 0, _, rfl⟩, ⟨.int 1, _, rfl⟩, rfl, by decide +kernel⟩
  | double => exact ⟨⟨.int 0, _, rfl⟩, ⟨.int 1, _, rfl⟩, rfl, by decide +kernel⟩
  | text => exact ⟨⟨.text "", _, rfl⟩, ⟨.text "a", _, rfl⟩, rfl, by decide⟩
  | bytes => exact ⟨⟨.bytes [], _, rfl⟩, ⟨.bytes [0], _, rfl⟩, rfl, by decide⟩
  | uuid => exact ⟨⟨.uuid .zero, _, rfl⟩, ⟨.uuid ⟨.replicate 16 1⟩, _, rfl⟩, rfl, by decide⟩
  | date => exact ⟨⟨.date early.date, _, rfl⟩, ⟨.date late.date, _, rfl⟩, rfl, by decide⟩
  | time => exact ⟨⟨.time early.time, _, rfl⟩, ⟨.time late.time, _, rfl⟩, rfl, by decide⟩
  | timestamp => exact ⟨⟨.timestamp early, _, rfl⟩, ⟨.timestamp late, _, rfl⟩, rfl, by decide⟩
  | moment => exact ⟨⟨.moment ⟨early⟩, _, rfl⟩, ⟨.moment ⟨late⟩, _, rfl⟩, rfl, by decide⟩
  | json => exact ⟨⟨.json .null, _, rfl⟩, ⟨.json (.bool true), _, rfl⟩, rfl, by simp⟩
  | option t ih =>
    obtain ⟨-, high, hpresent, -⟩ := ih
    have hread : (option t).read high.value = .ok (some high.carrier) := by
      have hreads := high.reads
      simp only [read, hpresent, Bool.false_eq_true, if_false] at hreads ⊢
      rw [ofValue, hreads]
      rfl
    exact ⟨⟨.null, none, rfl⟩, ⟨high.value, _, hread⟩, hpresent, by simp⟩

/-- The values and what they are read as, one for each leaf. -/
def Leaf.DecodesAll (leaves : List Leaf) (values : List Value) (vs : List Carried) : Prop :=
  List.Forall₂ (fun entry v => entry.1.Decodes entry.2 v) (leaves.zip values) vs

theorem Leaf.Decodes.unique {l : Leaf} {value : Value} {v w : Carried} (hv : l.Decodes value v)
    (hw : l.Decodes value w) : v = w := by
  obtain ⟨carrier, hread, rfl⟩ := hv
  obtain ⟨carrier', hread', rfl⟩ := hw
  rw [Except.ok.inj (hread.symm.trans hread')]

section Samples

variable {h : Header} {leaves : List Leaf} (hlength : leaves.length = h.names.length)
  (sample : Nat → (t : ColumnType) → t.Sample)

def Row.samples : Row h where
  values := leaves.mapIdx fun k l => (sample k l.type).value
  length_eq := by simpa using hlength

theorem Row.decodesAll_samples :
    Leaf.DecodesAll leaves (samples hlength sample).values
      (leaves.mapIdx fun k l => ⟨l.type, (sample k l.type).carrier⟩) := by
  refine List.forall₂_iff_get.mpr ⟨by simp [samples], fun k hk hk' => ?_⟩
  simp only [samples, List.get_eq_getElem, List.getElem_zip, List.getElem_mapIdx]
  exact ⟨_, (sample k _).reads, rfl⟩

theorem Row.valueAt_samples (j : h.Place) :
    (samples hlength sample).valueAt j =
      (sample j (leaves.get (j.cast hlength.symm)).type).value := by
  simp only [valueAt, samples, List.get_eq_getElem, List.getElem_mapIdx]
  rfl

end Samples

/-- If leaves hold what other leaves are given, whatever that is, then they have the names that the
values stand under. -/
theorem Row.names_of_holds {h : Header} {leaves leaves' : List Leaf}
    (hlength : leaves.length = h.names.length) (hsame : leaves.length = leaves'.length)
    (hholds : ∀ (row : Row h) (vs : List Carried), Leaf.DecodesAll leaves row.values vs →
      List.Forall₂ row.Holds leaves' vs) :
    leaves'.map Leaf.name = h.names := by
  choose low high _ hne using ColumnType.exists_samples
  refine List.ext_getElem (by simp [← hsame, hlength]) fun i hi hi' => ?_
  have hleaf : i < leaves.length := hlength ▸ hi'
  -- Two rows that differ at place `i` alone: the leaf at `i` is read from no other place.
  have hread (sample : Nat → (t : ColumnType) → t.Sample) :
      (samples hlength sample).Holds (leaves'.get ⟨i, hsame ▸ hleaf⟩)
        ⟨leaves[i].type, (sample i leaves[i].type).carrier⟩ := by
    have hall := hholds _ _ (decodesAll_samples hlength sample)
    simpa using (List.forall₂_iff_get.mp hall).2 i (by omega) (by simpa using hleaf)
  obtain ⟨j, first, hdecodes⟩ := hread fun _ => low
  obtain ⟨j', first', hdecodes'⟩ := hread fun k => if k = i then high else low
  obtain rfl := first.unique first'
  by_cases hji : j.val = i
  · have hname := first.1
    simp only [List.get_eq_getElem, hji] at hname
    simpa using hname.symm
  · rw [valueAt_samples] at hdecodes hdecodes'
    simp only [hji, if_false] at hdecodes'
    have hcarried := hdecodes.unique hdecodes'
    simp only [if_true, Sigma.mk.injEq, heq_eq_eq, true_and] at hcarried
    exact absurd hcarried (hne _)

/-! ### Fetching records -/

/-- The rows have the columns that the statement selects, distinct and in order, and the values of
each row read, at the types of a record's columns, as what is carried. -/
structure RowSet.Answers (rows : RowSet) (q : Select) (ms : List Member)
    (carried : List (List Carried)) : Prop where
  names : q.selections.map Selection.resultName? = rows.header.names.map some
  distinct : rows.header.names.Nodup
  decodes : List.Forall₂ (fun (row : Row rows.header) vs =>
    Leaf.DecodesAll (Member.allLeaves q.settings.separator "" ms) row.values vs) rows.rows carried

theorem RowSet.Answers.names_eq {rows : RowSet} {q : Select} {ms : List Member}
    {carried : List (List Carried)} (ha : rows.Answers q ms carried) {fields : List Field}
    {table : String} (hq : q.Lists fields table) :
    rows.header.names = Field.allNames q.settings.separator "" fields := by
  have hnames := ha.names.symm.trans hq.resultNames
  exact (List.map_inj_right fun _ _ => Option.some.inj).mp hnames

theorem RowSet.Answers.withSeparator {rows : RowSet} {q : Select} {ms : List Member}
    {carried : List (List Carried)} (ha : rows.Answers q ms carried) (separator : String) :
    (rows.withSeparator separator).Answers q ms carried :=
  ⟨ha.names, ha.distinct, List.forall₂_map_left_iff.mpr ha.decodes⟩

namespace Described

/-- Records are fetched, one for each row, that hold what the rows carry. -/
def Fetches (d : Declaration Described) (carried : List (List Carried))
    (result : Except Error (List Reading)) : Prop :=
  ∃ rs, result = .ok rs ∧ List.Forall₂ (Fills (.record d)) carried rs

section Fetching

variable {d : Declaration Described} {ms : List Member}
  (hreading : reading? (.record d) = some (.record ms))

include hreading

/-- Rows under the names that their separator gives to the columns of a record. -/
theorem fetches_rows {h : Header}
    (hnames : h.names = Field.allNames h.separator "" (Member.allColumns ms))
    (hdistinct : h.names.Nodup) {rows : List (Row h)} {carried : List (List Carried)}
    (hdecodes : List.Forall₂ (fun row vs =>
      Leaf.DecodesAll (Member.allLeaves h.separator "" ms) row.values vs) rows carried) :
    Fetches d carried (rows.mapM (RowReader.record ms).read) := by
  suffices hreads : ∃ rs,
      List.Forall₂ (fun row r => (RowReader.record ms).read row = .ok r) rows rs ∧
        List.Forall₂ (Fills (.record d)) carried rs by
    obtain ⟨rs, hreads, hfilled⟩ := hreads
    exact ⟨rs, mapM_ok_iff.mpr hreads, hfilled⟩
  induction hdecodes with
  | nil => exact ⟨[], .nil, .nil⟩
  | cons hrow _ ih =>
    obtain ⟨rs, hreads, hfilled⟩ := ih
    obtain ⟨fields, filled, hread⟩ :=
      RowReader.record_of_names (hnames.trans (Member.names_allLeaves _ ms "").symm) hdistinct hrow
    exact ⟨.record fields :: rs, .cons hread hreads,
      .cons ((fills_iff _ hreading).mpr ⟨fields, filled, rfl⟩) hfilled⟩

/-- What a fetched record holds stands in its row under the names of its leaves. -/
theorem holds_of_fetches {h : Header} {row : Row h} {vs : List Carried}
    (hfetches : Fetches d [vs] ([row].mapM (RowReader.record ms).read)) :
    List.Forall₂ row.Holds (Member.allLeaves h.separator "" ms) vs := by
  obtain ⟨rs, hrs, hfilled⟩ := hfetches
  obtain ⟨r, _, hfill, hnone, rfl⟩ := List.forall₂_cons_left_iff.mp hfilled
  obtain ⟨hread, -⟩ := List.forall₂_cons.mp (mapM_ok_iff.mp hrs)
  obtain ⟨vs', fields, hholds, filled, rfl⟩ := RowReader.record_ok_iff.mp hread
  obtain ⟨fields', filled', hfields⟩ := (fills_iff _ hreading).mp hfill
  obtain rfl : fields = fields' := Reading.record.inj hfields
  rw [filled'.carried_unique filled]
  exact hholds

variable {q : Select} {table : String} {s : Statement}
  (hlists : q.Lists (Member.allColumns ms) table) (hbuild : q.build = .ok s)

include hlists hbuild

theorem fetches_answer {c : Connection} {rows : RowSet} {carried : List (List Carried)}
    (hrows : (c.query s.text s.operands).result = .ok rows) (hanswers : rows.Answers q ms carried)
    (hsame : Field.allNames rows.header.separator "" (Member.allColumns ms) =
      Field.allNames q.settings.separator "" (Member.allColumns ms)) :
    Fetches d carried (q.draft.fetchAll c (.record ms)).result := by
  rw [Draft.result_fetchAll hbuild, hrows]
  refine fetches_rows hreading ((hanswers.names_eq hlists).trans hsame.symm) hanswers.distinct ?_
  rw [Member.allLeaves_congr hsame]
  exact hanswers.decodes

/-- If whatever a client answers is fetched, the rows' separator names the columns as they were
selected. -/
theorem names_of_fetches {separator : String}
    (hdistinct : (Field.allNames q.settings.separator "" (Member.allColumns ms)).Nodup)
    (hclients : ∀ (c : Client) (rows : RowSet) (carried : List (List Carried)),
      rows.header.separator = separator → (c.query s.text s.operands).result = .ok rows →
      rows.Answers q ms carried →
        Fetches d carried (q.draft.fetchAll c.connection (.record ms)).result) :
    Field.allNames separator "" (Member.allColumns ms) =
      Field.allNames q.settings.separator "" (Member.allColumns ms) := by
  let h : Header := ⟨Field.allNames q.settings.separator "" (Member.allColumns ms), separator⟩
  let leaves := Member.allLeaves q.settings.separator "" ms
  have hnames : leaves.map Leaf.name = h.names := Member.names_allLeaves _ ms ""
  have htypes := congrArg List.length
    (Member.types_allLeaves q.settings.separator separator ms "" "")
  -- A client may answer any single row under the selected names.
  have hholds (row : Row h) (vs : List Carried) (hdecodes : Leaf.DecodesAll leaves row.values vs) :
      List.Forall₂ row.Holds (Member.allLeaves separator "" ms) vs := by
    let rows : RowSet := ⟨h, [row]⟩
    have hanswers : rows.Answers q ms [vs] :=
      ⟨hlists.resultNames, hdistinct, .cons hdecodes .nil⟩
    have hfetches := hclients (.constant rows ⟨0, none⟩ none ⟨0⟩ ⟨0⟩) rows [vs] rfl rfl hanswers
    rw [Draft.result_fetchAll hbuild] at hfetches
    exact holds_of_fetches hreading hfetches
  have hread := Row.names_of_holds (by simp [← hnames]) (by simpa using htypes) hholds
  rwa [Member.names_allLeaves] at hread

end Fetching

/-- The statement that lists a record fetches it, leaf by leaf, from every database whose settings it
inherited, whichever separator the rows came with. From any other client it does so for all rows
that bear some separator, exactly if that separator gives the columns of the record the names that
the statement selects. -/
theorem listed_records_are_fetched_iff (d : Declaration Described) (ms : List Member)
    (hreading : reading? (.record d) = some (.record ms)) :
    ∃ fields, listing? (.record d) = some (.record fields) ∧
      ∀ (q : Select) (table : String) (s : Statement), q.Lists fields table → q.build = .ok s →
        (∀ (db : Database) (rows : RowSet) (carried : List (List Carried)),
          db.settings = q.settings → db.InTime s →
          (db.connection.query s.text s.operands).result = .ok rows → rows.Answers q ms carried →
            Fetches d carried (q.draft.fetchAll db.asConnection (.record ms)).result ∧
              Fetches d carried (db.fetchAll q.draft (.record ms)).result) ∧
        ∀ separator, (Field.allNames q.settings.separator "" fields).Nodup →
          ((∀ (c : Client) (rows : RowSet) (carried : List (List Carried)),
              rows.header.separator = separator →
              (c.query s.text s.operands).result = .ok rows → rows.Answers q ms carried →
                Fetches d carried (q.draft.fetchAll c.connection (.record ms)).result) ↔
            Field.allNames separator "" fields =
              Field.allNames q.settings.separator "" fields) := by
  refine ⟨Member.allColumns ms, listing?_of_reading? _ hreading, fun q table s hlists hbuild =>
    ⟨fun db rows carried hsettings htime hrows hanswers => ?_, fun separator hdistinct =>
      ⟨fun hclients => names_of_fetches hreading hlists hbuild hdistinct hclients,
        fun hsame c rows carried hseparator hrows hanswers => ?_⟩⟩⟩
  · have hquery := db.result_query htime hrows
    have hfetches : Fetches d carried (q.draft.fetchAll db.asConnection (.record ms)).result :=
      fetches_answer hreading hlists hbuild hquery (hanswers.withSeparator _)
        (by rw [← hsettings]; rfl)
    exact ⟨hfetches, by rwa [Database.fetchAll_eq]⟩
  · have hquery : (c.connection.query s.text s.operands).result = .ok rows := hrows
    exact fetches_answer hreading hlists hbuild hquery hanswers (by rw [hseparator, hsame])

/-- A record with an embedded one and a separator of its own: a database with the same settings
fetches it, and some client whose rows bear another separator does not. -/
theorem listed_records_are_fetched_iff_dotted :
    let address : Declaration Described := { fields := [⟨"city", .column .text, []⟩] }
    let user : Declaration Described :=
      { fields := [⟨"address", .record address, [⟨"flatten", none⟩]⟩] }
    let members : List Member := [.embedded "address" "address" [.column "city" "city" .text]]
    let q : Select := { settings := { separator := "." }
                        selections := [⟨.named "address.city", none⟩]
                        tables := [⟨"users", none⟩] }
    let s : Statement := .ofFragment .generic q.draft.fragment
    let rows : RowSet := ⟨{ names := ["address.city"] }, [⟨[.text "Oslo"], rfl⟩]⟩
    let client : Client := .constant rows ⟨0, none⟩ none ⟨0⟩ ⟨0⟩
    let db : Database := ⟨client.connection, q.settings⟩
    reading? (.record user) = some (.record members) ∧ q.build = .ok s ∧
      Fetches user [[⟨.text, "Oslo"⟩]] (q.draft.fetchAll db.asConnection (.record members)).result ∧
      ¬∀ (c : Client) (rows : RowSet) (carried : List (List Carried)),
        rows.header.separator = "_" → (c.query s.text s.operands).result = .ok rows →
        rows.Answers q members carried →
          Fetches user carried (q.draft.fetchAll c.connection (.record members)).result := by
  intro address user members q s rows client db
  have hreading : reading? (.record user) = some (.record members) := rfl
  have hbuild : q.build = .ok s := rfl
  have hanswers : rows.Answers q members [[⟨.text, "Oslo"⟩]] :=
    ⟨rfl, by decide, .cons (.cons ⟨"Oslo", rfl, rfl⟩ .nil) .nil⟩
  obtain ⟨fields, hlisting, hfetched⟩ := listed_records_are_fetched_iff user members hreading
  obtain rfl : fields = Member.allColumns members := by
    have hfields : listing? (.record user) = some (.record (Member.allColumns members)) := rfl
    rw [hfields] at hlisting
    injection hlisting with hlisting
    injection hlisting with hlisting
    exact hlisting.symm
  have hlists : q.Lists (Member.allColumns members) "" := rfl
  obtain ⟨hdatabases, hclients⟩ := hfetched q "" s hlists hbuild
  refine ⟨hreading, hbuild, (hdatabases db rows _ rfl nofun rfl hanswers).1, fun hall => ?_⟩
  have hnames := (hclients "_" (by decide)).mp hall
  exact absurd hnames (by decide)

/-- The statement selects `address.city`, the client answers it, and the record is looked for under
another name. -/
theorem dotted_records_are_not_found :
    let address : Declaration Described :=
      { fields := [⟨"city", .column .text, []⟩, ⟨"zip", .column (.option .text), []⟩] }
    let user : Declaration Described :=
      { fields := [⟨"id", .column (.int .i64), []⟩,
          ⟨"address", .record address, [⟨"flatten", none⟩]⟩] }
    let members : List Member :=
      [.column "id" "id" (.int .i64),
        .embedded "address" "address"
          [.column "city" "city" .text, .column "zip" "zip" (.option .text)]]
    let q := ((({} : Select).withSettings { separator := "." }).record
      (Member.allColumns members)).table ⟨"u", none⟩
    let s : Statement := ⟨"SELECT id, address.city, address.zip FROM u", [], .generic⟩
    let rows : RowSet :=
      ⟨{ names := ["id", "address.city", "address.zip"] },
        [⟨[.int 1, .text "Oslo", .null], rfl⟩]⟩
    let client : Client := .constant rows ⟨0, none⟩ none ⟨0⟩ ⟨0⟩
    reading? (.record user) = some (.record members) ∧
      q.Lists (Member.allColumns members) "" ∧ q.build = .ok s ∧ rows.header.separator = "_" ∧
      (client.query s.text s.operands).result = .ok rows ∧
      rows.Answers q members
        [[⟨.int .i64, ⟨1, by decide⟩⟩, ⟨.text, "Oslo"⟩, ⟨.option .text, none⟩]] ∧
      (q.draft.fetchAll client.connection (.record members)).result =
        .error (.decode "address_city" .columnMissing) := by
  intro address user members q s rows client
  have hanswers : rows.Answers q members
      [[⟨.int .i64, ⟨1, by decide⟩⟩, ⟨.text, "Oslo"⟩, ⟨.option .text, none⟩]] := by
    refine ⟨rfl, by decide, .cons (.cons ⟨_, rfl, ?_⟩ ?_) .nil⟩
    · rfl
    · exact .cons ⟨"Oslo", rfl, rfl⟩ (.cons ⟨none, rfl, rfl⟩ .nil)
  have hlists : q.Lists (Member.allColumns members) "" := Select.lists_record rfl _ _
  exact ⟨rfl, hlists, rfl, rfl, rfl, hanswers, rfl⟩

end Described

end QueryKit
