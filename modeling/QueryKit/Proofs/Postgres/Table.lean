import QueryKit.Postgres.Session
import QueryKit.Proofs.Check
import QueryKit.Proofs.Postgres.Misreading
import QueryKit.Proofs.Row

/-! Tables that a server answers. A value that matches a type is sent at it exactly if it fits the
type, and it is read back as it was. So a table of such values comes back as the row set of these
values, in their order; and any other table fails with the first of its cells that cannot be read,
row by row, under the name of the column. -/

namespace QueryKit

theorem Uuid.ofBytes?_toList (u : Uuid) : ofBytes? u.toList = some u := by
  have hlength : u.toList.length = 16 := by simp [toList]
  rw [ofBytes?, dif_pos hlength]
  rfl

namespace Postgres

open Check

/-! ### Single values -/

/-- The least and the greatest number of an integer type. -/
def DataType.range? : DataType → Option (Int × Int)
  | .int2 => some (-32768, 32767)
  | .int4 => some (-2147483648, 2147483647)
  | .int8 => some (-9223372036854775808, 9223372036854775807)
  | .oid => some (0, 4294967295)
  | .bool | .float4 | .float8 | .text | .varchar | .bpchar | .name | .bytea | .uuid | .date | .time
  | .timestamp | .timestamptz | .json | .jsonb | .other _ => none

/-- The value is of the kind that the type is for. A missing value is of any kind. -/
inductive Matches : DataType → Value → Prop
  | missing {type : DataType} (known : ∀ name, type ≠ .other name) : Matches type .null
  | truth (b : Bool) : Matches .bool (.bool b)
  | number {type : DataType} (isRange : type.range?.isSome) (n : Int64) : Matches type (.int n)
  | text {type : DataType} (isText : type.kind? = some .text) (s : String) : Matches type (.text s)
  | bytes (b : Bytes) : Matches .bytea (.bytes b)
  | uuid (u : Uuid) : Matches .uuid (.uuid u)

/-- An integer lies in the range of its type. -/
def Fits (type : DataType) : Value → Prop
  | .int n => ∀ range ∈ type.range?, range.1 ≤ n.toInt ∧ n.toInt ≤ range.2
  | _ => True

variable {type : DataType} {v : Value} {field : Option Bytes}

theorem fitted_isSome_iff {count : Nat} {least greatest n : Int} :
    (fitted count least greatest n).isSome ↔ least ≤ n ∧ n ≤ greatest := by
  unfold fitted
  split <;> simp_all

theorem encodeInt_isSome_iff (ht : type.range?.isSome) (n : Int64) :
    (encodeInt type n.toInt).isSome ↔ Fits type (.int n) := by
  have hlow := n.le_toInt
  have hhigh := n.toInt_lt
  cases type <;> simp only [DataType.range?, Option.isSome_none, Bool.false_eq_true] at ht
  case int8 =>
    simp only [encodeInt, Fits, DataType.range?, Option.mem_some_iff, Option.isSome_some, true_iff]
    rintro range rfl
    omega
  all_goals simp [encodeInt, Fits, DataType.range?, fitted_isSome_iff]

theorem kind_eq_of_range (ht : type.range?.isSome) : type.kind? = some .number := by
  cases type <;> first | rfl | contradiction

/-- A value of the kind of a type is sent at it exactly if it fits. -/
theorem Matches.encode_isSome_iff (hm : Matches type v) : (encode type v).isSome ↔ Fits type v := by
  cases hm with
  | number isRange n =>
    rw [← encodeInt_isSome_iff isRange n, encode]
    simp [Value.isNull, encodePresent]
  | missing | truth | text | bytes | uuid => simp [encode, encodePresent, Value.isNull, Fits]

theorem decode_of_readBytes (known : ∀ name, type ≠ .other name) {bytes : Bytes}
    (hr : readBytes type bytes = some v) (index : Nat) : decode type index (some bytes) = .ok v := by
  cases type <;> first | exact absurd rfl (known _) | simp only [decode, hr]

/-- A value of the kind of a type is read back as it was sent. -/
theorem Matches.decode_encode (hm : Matches type v) (hs : encode type v = some field)
    (index : Nat) : decode type index field = .ok v := by
  have hplain {v : Value} (ht : type.kind?.isSome) (hsame : type.kind? = v.kind?)
      (hs : encode type v = some field) : decode type index field = .ok v := by
    have hv : v.kind?.isSome := hsame ▸ ht
    have hpresent : v.isNull = false := by cases v <;> first | rfl | contradiction
    simp only [encode, hpresent, Bool.false_eq_true, if_false, Option.map_eq_some_iff] at hs
    obtain ⟨bytes, hbytes, rfl⟩ := hs
    exact (decode_ok_iff ht index).mpr (readBytes_of_encodePresent ht hsame hbytes)
  cases hm with
  | missing known =>
    obtain rfl := Option.some.inj hs
    cases type <;> first | rfl | exact absurd rfl (known _)
  | truth b => exact hplain rfl rfl hs
  | number isRange n =>
    have hkind := kind_eq_of_range isRange
    exact hplain (by simp [hkind]) hkind hs
  | text isText s => exact hplain (by simp [isText]) isText hs
  | bytes b => exact hplain rfl rfl hs
  | uuid u =>
    obtain rfl := Option.some.inj hs
    refine decode_of_readBytes (by simp) ?_ index
    rw [readBytes, u.ofBytes?_toList]
    rfl

/-! ### Rows -/

namespace Server

/-- The fields of a row, each of which is the value under its column as it is sent. -/
inductive Sends : List ServerColumn → List Value → List (Option Bytes) → Prop
  | nil : Sends [] [] []
  | cons {column : ServerColumn} {columns : List ServerColumn} {v : Value} {vs : List Value}
      {field : Option Bytes} {fields : List (Option Bytes)} (same : Matches column.type v)
      (sent : encode column.type v = some field) (rest : Sends columns vs fields) :
      Sends (column :: columns) (v :: vs) (field :: fields)

variable {columns : List ServerColumn} {vs : List Value} {fields : List (Option Bytes)} {e : Error}

theorem Sends.length_eq (hs : Sends columns vs fields) : vs.length = columns.length := by
  induction hs with
  | nil => rfl
  | cons _ _ _ ih => simp [ih]

theorem Sends.readRow_eq (hs : Sends columns vs fields) (index : Nat) :
    readRow index columns fields = .ok vs := by
  induction hs generalizing index with
  | nil => rfl
  | cons same sent _ ih =>
    rw [readRow, same.decode_encode sent index, ih]
    rfl

end Server

/-! ### Cells -/

/-- A cell of a table: the name of its column, and what its field reads as. -/
structure Cell where
  column : String
  content : Except DecodeError Value

/-- The value of the cell; an error bears the name of the column. -/
def Cell.value (c : Cell) : Except Error Value :=
  c.content.mapError (.decode c.column)

theorem Cell.value_error_iff {c : Cell} {e : Error} :
    c.value = .error e ↔ ∃ cause, c.content = .error cause ∧ e = .decode c.column cause :=
  mapError_error_iff

theorem Cell.exists_value_iff {c : Cell} :
    (∃ v, c.value = .ok v) ↔ ∀ cause, c.content ≠ .error cause := by
  obtain ⟨column, content⟩ := c
  cases content <;> simp [Cell.value, Except.mapError]

namespace Server

/-- The cells of a row from a number on. -/
def rowCells (index : Nat) : List ServerColumn → List (Option Bytes) → List Cell
  | column :: columns, field :: fields =>
    ⟨column.name, decode column.type index field⟩ :: rowCells (index + 1) columns fields
  | _, _ => []

/-- The cell of a row and a column by their numbers. -/
def cell? (s : Server) (i j : Nat) : Option Cell :=
  s.rows[i]?.bind fun fields => (rowCells 0 s.columns fields)[j]?

/-- Every row has a field for each column. -/
def IsTable (s : Server) : Prop :=
  ∀ fields ∈ s.rows, fields.length = s.columns.length

/-- The cell at a place cannot be read, and no cell in front of it, row by row. -/
structure FirstFault (s : Server) (i j : Nat) (column : String) (cause : DecodeError) : Prop where
  fails : s.cell? i j = some ⟨column, .error cause⟩
  first : ∀ i' j', i' < i ∨ i' = i ∧ j' < j →
    ∀ column' cause', s.cell? i' j' ≠ some ⟨column', .error cause'⟩

theorem readRow_eq_mapM (index : Nat) (columns : List ServerColumn) (fields : List (Option Bytes)) :
    readRow index columns fields = (rowCells index columns fields).mapM Cell.value := by
  induction columns generalizing index fields with
  | nil => rfl
  | cons column columns ih =>
    cases fields with
    | nil => rfl
    | cons field fields =>
      rw [readRow, ih, rowCells, List.mapM_cons]
      rfl

theorem length_rowCells (index : Nat) (columns : List ServerColumn) (fields : List (Option Bytes)) :
    (rowCells index columns fields).length = min columns.length fields.length := by
  induction columns generalizing index fields with
  | nil => simp [rowCells]
  | cons column columns ih => cases fields <;> simp [rowCells, ih]

def readFields (s : Server) (fields : List (Option Bytes)) : Except Error (Row s.header) := do
  Row.ofValues s.header (← readRow 0 s.columns fields)

theorem readRows_eq (s : Server) :
    s.readRows = (s.rows.mapM s.readFields).map (⟨s.header, ·⟩) :=
  rfl

section Width

variable {s : Server} {fields : List (Option Bytes)} {e : Error}

theorem readFields_ok_iff {row : Row s.header} :
    s.readFields fields = .ok row ↔ readRow 0 s.columns fields = .ok row.values := by
  rw [readFields, bind_ok_iff]
  simp only [Row.ofValues_ok_iff, exists_eq_right]

variable (hw : fields.length = s.columns.length)

include hw

theorem length_of_readRow {vs : List Value} (hr : readRow 0 s.columns fields = .ok vs) :
    vs.length = s.header.names.length := by
  rw [readRow_eq_mapM] at hr
  have hlength := (mapM_ok_iff.mp hr).length_eq
  rw [length_rowCells, hw, Nat.min_self] at hlength
  simp [header, hlength]

theorem readFields_error_iff :
    s.readFields fields = .error e ↔ readRow 0 s.columns fields = .error e := by
  rw [readFields, bind_error_iff]
  refine or_iff_left ?_
  rintro ⟨vs, hr, herror⟩
  have hrow : Row.ofValues s.header vs = .ok ⟨vs, length_of_readRow hw hr⟩ :=
    Row.ofValues_ok_iff.mpr rfl
  rw [hrow] at herror
  contradiction

/-- A row is read unless one of its cells cannot be. -/
theorem exists_readFields_iff : (∃ row, s.readFields fields = .ok row) ↔
    ∀ (j : Nat) column cause, (rowCells 0 s.columns fields)[j]? ≠ some ⟨column, .error cause⟩ := by
  have hvalues : (∃ row, s.readFields fields = .ok row) ↔ ∃ vs, readRow 0 s.columns fields = .ok vs := by
    simp only [readFields_ok_iff]
    constructor
    · rintro ⟨row, hr⟩
      exact ⟨_, hr⟩
    · rintro ⟨vs, hr⟩
      exact ⟨⟨vs, length_of_readRow hw hr⟩, hr⟩
  rw [hvalues, readRow_eq_mapM]
  simp only [mapM_ok_iff, exists_forall₂_iff, Cell.exists_value_iff]
  constructor
  · intro h j column cause hj
    exact h _ (List.mem_of_getElem? hj) cause rfl
  · rintro h ⟨column, content⟩ hmem cause rfl
    obtain ⟨j, hj⟩ := List.getElem?_of_mem hmem
    exact h j column cause hj

/-- A row fails with the first of its cells that cannot be read. -/
theorem readFields_error_iff_cell : s.readFields fields = .error e ↔
    ∃ (j : Nat) (column : String) (cause : DecodeError),
      (rowCells 0 s.columns fields)[j]? = some ⟨column, .error cause⟩ ∧ e = .decode column cause ∧
        ∀ k < j, ∀ column' cause',
          (rowCells 0 s.columns fields)[k]? ≠ some ⟨column', .error cause'⟩ := by
  rw [readFields_error_iff hw, readRow_eq_mapM, mapM_error_iff_getElem?]
  simp only [Cell.value_error_iff, Cell.exists_value_iff]
  constructor
  · rintro ⟨j, ⟨column, content⟩, hj, ⟨cause, rfl, rfl⟩, hbefore⟩
    exact ⟨j, column, cause, hj, rfl, fun k hk _ cause' hcell => hbefore k hk _ hcell cause' rfl⟩
  · rintro ⟨j, column, cause, hj, rfl, hbefore⟩
    refine ⟨j, _, hj, ⟨cause, rfl, rfl⟩, fun k hk cell hcell cause' hcause => ?_⟩
    obtain ⟨column', content⟩ := cell
    obtain rfl : content = .error cause' := hcause
    exact hbefore k hk column' cause' hcell

end Width

/-! ### Tables -/

theorem exists_readRows_of_sends {s : Server} {rows : List (List Value)}
    (hs : List.Forall₂ (Sends s.columns) rows s.rows) :
    ∃ set, s.readRows = .ok set ∧ set.header = s.header ∧ set.rows.map Row.values = rows := by
  suffices hrows : ∃ rs, List.Forall₂ (fun fields row => s.readFields fields = .ok row) s.rows rs ∧
      rs.map Row.values = rows by
    obtain ⟨rs, hreads, hvalues⟩ := hrows
    refine ⟨⟨s.header, rs⟩, ?_, rfl, hvalues⟩
    rw [readRows_eq, mapM_ok_iff.mpr hreads]
    rfl
  generalize s.rows = sent at hs
  induction hs with
  | nil => exact ⟨[], .nil, rfl⟩
  | @cons vs fields rows sent hsends _ ih =>
    obtain ⟨rs, hreads, hvalues⟩ := ih
    have hlength : vs.length = s.header.names.length := by simp [header, hsends.length_eq]
    refine ⟨⟨vs, hlength⟩ :: rs, .cons ?_ hreads, by simp [hvalues]⟩
    exact readFields_ok_iff.mpr (hsends.readRow_eq 0)

theorem cell?_of_row {s : Server} {i : Nat} {fields : List (Option Bytes)}
    (hi : s.rows[i]? = some fields) (j : Nat) :
    s.cell? i j = (rowCells 0 s.columns fields)[j]? := by
  simp [cell?, hi]

/-- A table fails with the first of its cells that cannot be read. -/
theorem readRows_error_iff {s : Server} (ht : s.IsTable) {e : Error} :
    s.readRows = .error e ↔
      ∃ i j column cause, s.FirstFault i j column cause ∧ e = .decode column cause := by
  have hwidth {i : Nat} {fields : List (Option Bytes)} (hi : s.rows[i]? = some fields) :
      fields.length = s.columns.length := ht fields (List.mem_of_getElem? hi)
  rw [readRows_eq, map_error_iff, mapM_error_iff_getElem?]
  constructor
  · rintro ⟨i, fields, hi, hfails, habove⟩
    -- The cells above stand in rows that are read, those to the left in front of the first fault.
    obtain ⟨j, column, cause, hj, rfl, hleft⟩ := (readFields_error_iff_cell (hwidth hi)).mp hfails
    refine ⟨i, j, column, cause, ⟨(cell?_of_row hi j).trans hj, ?_⟩, rfl⟩
    rintro i' j' (hlt | ⟨rfl, hlt⟩) column' cause' hcell
    · obtain ⟨fields', hi', hcell'⟩ := Option.bind_eq_some_iff.mp hcell
      exact (exists_readFields_iff (hwidth hi')).mp (habove i' hlt fields' hi') j' column' cause' hcell'
    · exact hleft j' hlt column' cause' ((cell?_of_row hi j').symm.trans hcell)
  · rintro ⟨i, j, column, cause, hfault, rfl⟩
    obtain ⟨fields, hi, hj⟩ := Option.bind_eq_some_iff.mp hfault.fails
    refine ⟨i, fields, hi, (readFields_error_iff_cell (hwidth hi)).mpr ⟨j, column, cause, hj, rfl, ?_⟩, ?_⟩
    · intro k hk column' cause' hcell
      exact hfault.first i k (.inr ⟨rfl, hk⟩) column' cause' ((cell?_of_row hi k).trans hcell)
    · intro k hk fields' hk'
      refine (exists_readFields_iff (hwidth hk')).mpr fun j' column' cause' hcell => ?_
      exact hfault.first k j' (.inl hk) column' cause' ((cell?_of_row hk' j').trans hcell)

/-- A table is read unless one of its cells cannot be. -/
theorem exists_readRows_iff {s : Server} (ht : s.IsTable) :
    (∃ set, s.readRows = .ok set) ↔
      ∀ i j column cause, s.cell? i j ≠ some ⟨column, .error cause⟩ := by
  rw [readRows_eq, exists_map_ok_iff]
  simp only [mapM_ok_iff, exists_forall₂_iff]
  constructor
  · intro hreads i j column cause hcell
    obtain ⟨fields, hi, hj⟩ := Option.bind_eq_some_iff.mp hcell
    have hmem := List.mem_of_getElem? hi
    exact (exists_readFields_iff (ht fields hmem)).mp (hreads fields hmem) j column cause hj
  · intro hnone fields hmem
    obtain ⟨i, hi⟩ := List.getElem?_of_mem hmem
    refine (exists_readFields_iff (ht fields hmem)).mpr fun j column cause hj => ?_
    exact hnone i j column cause ((cell?_of_row hi j).trans hj)

end Server

/-- Values of the kinds of their types are sent if they fit, and come back as they were, one by one
and as a table. A table fails only with a cell that cannot be read, and then with the first one; a
cell of a type that is known by its name only never can. -/
theorem matching_tables_are_read_back :
    (∀ type v, Matches type v →
      ((encode type v).isSome ↔ Fits type v) ∧
        ∀ field, encode type v = some field → ∀ index, decode type index field = .ok v) ∧
    (∀ name index field, decode (.other name) index field = .error (.unsupportedType name)) ∧
    ∀ s : Server,
      (∀ rows, List.Forall₂ (Server.Sends s.columns) rows s.rows →
        ∃ set, s.readRows = .ok set ∧ set.header.names = s.columns.map ServerColumn.name ∧
          set.rows.map Row.values = rows) ∧
      (s.IsTable →
        ((∃ set, s.readRows = .ok set) ↔
          ∀ i j column cause, s.cell? i j ≠ some ⟨column, .error cause⟩) ∧
        ∀ e, s.readRows = .error e ↔
          ∃ i j column cause, s.FirstFault i j column cause ∧ e = .decode column cause) := by
  refine ⟨fun type v hm => ⟨hm.encode_isSome_iff, fun field hs => hm.decode_encode hs⟩,
    fun name index field => by cases field <;> rfl, fun s => ⟨fun rows hs => ?_, fun ht =>
      ⟨Server.exists_readRows_iff ht, fun e => Server.readRows_error_iff ht⟩⟩⟩
  obtain ⟨set, hread, hheader, hvalues⟩ := Server.exists_readRows_of_sends hs
  exact ⟨set, hread, by rw [hheader]; rfl, hvalues⟩

/-- A number, a text and a missing value come back; a point in the second column is the error, and
not the number below it that is cut short. -/
theorem matching_tables_are_read_back_mixed :
    let fields : List (Option Bytes) := [some [255, 249], some [97], none]
    let s : Server :=
      { columns := [⟨"n", .int2⟩, ⟨"t", .text⟩, ⟨"u", .uuid⟩], rows := [fields, fields] }
    let s' : Server :=
      { columns := [⟨"n", .int2⟩, ⟨"p", .other "point"⟩], rows := [[none, none], [some [0], none]] }
    ((encode .int2 (.int (-7))).isSome ∧ ¬(encode .int2 (.int 32768)).isSome) ∧
      (∃ set, s.readRows = .ok set ∧ set.header.names = ["n", "t", "u"] ∧
        set.rows.map Row.values =
          [[.int (-7), .text "a", .null], [.int (-7), .text "a", .null]]) ∧
      s'.readRows = .error (.decode "p" (.unsupportedType "point")) := by
  intro fields s s'
  obtain ⟨hvalues, -, htables⟩ := matching_tables_are_read_back
  have hnumber (n : Int64) : Matches .int2 (.int n) := .number rfl n
  have hencoded (n : Int64) : (encode .int2 (.int n)).isSome ↔ Fits .int2 (.int n) :=
    (hvalues _ _ (hnumber n)).1
  have hfield : encode .int2 (.int (-7)) = some (some [255, 249]) := by decide
  have hsends : Server.Sends s.columns [.int (-7), .text "a", .null] fields :=
    .cons (hnumber _) hfield (.cons (.text rfl "a") (by decide) (.cons (.missing nofun) rfl .nil))
  refine ⟨⟨(hencoded _).mpr (by simp [Fits, DataType.range?]),
      mt (hencoded _).mp (by simp [Fits, DataType.range?])⟩,
    (htables s).1 _ (.cons hsends (.cons hsends .nil)), ?_⟩
  have ht : s'.IsTable := by simp [Server.IsTable, s']
  refine (((htables s').2 ht).2 _).mpr ⟨0, 1, "p", _, ⟨rfl, ?_⟩, rfl⟩
  rintro i j (hi | ⟨rfl, hj⟩)
  · contradiction
  · obtain rfl : j = 0 := by omega
    simp [Server.cell?, Server.rowCells, s', decode]

end Postgres

end QueryKit
