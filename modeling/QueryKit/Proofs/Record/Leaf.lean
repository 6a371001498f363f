import QueryKit.Proofs.Row
import QueryKit.Record.Member

/-! The leaves of a record in a row. Reading a record reads its leaves, in the order in which its
columns are listed and under the names that are listed; the record then holds what its leaves read,
and the first leaf that cannot be read is the error. -/

namespace QueryKit

open Check

/-- A column that a record reads: its name in the row, and the type that it is read at. -/
structure Leaf where
  name : String
  type : ColumnType

/-- What is read from a column. -/
abbrev Carried : Type :=
  (t : ColumnType) × t.Carrier

/-- The value reads as what is carried. -/
def Leaf.Decodes (l : Leaf) (value : Value) (v : Carried) : Prop :=
  ∃ carrier, l.type.read value = .ok carrier ∧ v = ⟨l.type, carrier⟩

namespace Row

variable {h : Header} {row : Row h} {l : Leaf} {v : Carried} {e : Error}

/-- The row has the column, and its first occurrence reads as what is carried. -/
def Holds (row : Row h) (l : Leaf) (v : Carried) : Prop :=
  ∃ i, h.IsFirst l.name i ∧ l.Decodes (row.valueAt i) v

/-- The row does not have the column, or its first occurrence cannot be read. -/
inductive Lacks (row : Row h) (l : Leaf) : Error → Prop
  | missing (absent : l.name ∉ h.names) : Lacks row l (.decode l.name .columnMissing)
  | unreadable {i : h.Place} {cause : DecodeError} (first : h.IsFirst l.name i)
      (unread : l.type.read (row.valueAt i) = .error cause) : Lacks row l (.decode l.name cause)

def leaf (row : Row h) (l : Leaf) : Except Error Carried :=
  (row.column l.type l.name).map fun carrier => ⟨l.type, carrier⟩

theorem leaf_eq (row : Row h) (l : Leaf) :
    row.leaf l = match row.get? l.name with
      | none => .error (.decode l.name .columnMissing)
      | some value => match l.type.read value with
        | .ok carrier => .ok ⟨l.type, carrier⟩
        | .error cause => .error (.decode l.name cause) := by
  simp only [leaf, column, get?, readAt]
  cases h.position? l.name with
  | none => rfl
  | some i =>
    simp only [Option.map_some]
    cases l.type.read (row.valueAt i) <;> rfl

theorem leaf_of_absent (absent : l.name ∉ h.names) :
    row.leaf l = .error (.decode l.name .columnMissing) := by
  simp [leaf_eq, get?, Header.position?_eq_none_iff.mpr absent]

theorem leaf_of_first {i : h.Place} (first : h.IsFirst l.name i) :
    row.leaf l = match l.type.read (row.valueAt i) with
      | .ok carrier => .ok ⟨l.type, carrier⟩
      | .error cause => .error (.decode l.name cause) := by
  simp [leaf_eq, get?, Header.position?_eq_some_iff.mpr first]

theorem leaf_ok_iff : row.leaf l = .ok v ↔ row.Holds l v := by
  constructor
  · intro hok
    cases hi : h.position? l.name with
    | none =>
      rw [leaf_of_absent (Header.position?_eq_none_iff.mp hi)] at hok
      contradiction
    | some i =>
      have first := Header.position?_eq_some_iff.mp hi
      rw [leaf_of_first first] at hok
      cases hread : l.type.read (row.valueAt i) with
      | error cause => simp [hread] at hok
      | ok carrier =>
        simp only [hread, Except.ok.injEq] at hok
        exact ⟨i, first, carrier, hread, hok.symm⟩
  · rintro ⟨i, first, carrier, hread, rfl⟩
    rw [leaf_of_first first, hread]

theorem leaf_error_iff : row.leaf l = .error e ↔ row.Lacks l e := by
  constructor
  · intro herror
    cases hi : h.position? l.name with
    | none =>
      have absent := Header.position?_eq_none_iff.mp hi
      rw [leaf_of_absent absent] at herror
      exact Except.error.inj herror ▸ .missing absent
    | some i =>
      have first := Header.position?_eq_some_iff.mp hi
      rw [leaf_of_first first] at herror
      cases hread : l.type.read (row.valueAt i) with
      | ok carrier => simp [hread] at herror
      | error cause =>
        simp only [hread, Except.error.injEq] at herror
        exact herror ▸ .unreadable first hread
  · rintro (absent | ⟨first, unread⟩)
    · exact leaf_of_absent absent
    · rw [leaf_of_first first, unread]

theorem mapM_leaf_ok_iff {leaves : List Leaf} {vs : List Carried} :
    leaves.mapM row.leaf = .ok vs ↔ List.Forall₂ row.Holds leaves vs := by
  simp only [mapM_ok_iff, leaf_ok_iff]

theorem mapM_leaf_error_iff {leaves : List Leaf} :
    leaves.mapM row.leaf = .error e ↔ ∃ front l back, leaves = front ++ l :: back ∧
      (∀ k ∈ front, ∃ v, row.Holds k v) ∧ row.Lacks l e := by
  simp only [mapM_error_iff, leaf_ok_iff, leaf_error_iff]

end Row

theorem Field.allNames_append (separator scope : String) (fs gs : List Field) :
    allNames separator scope (fs ++ gs) =
      allNames separator scope fs ++ allNames separator scope gs := by
  induction fs with
  | nil => rfl
  | cons f fs ih => simp [allNames, ih]

namespace Member

mutual

/-- The columns that a field reads within a scope. -/
def leaves (separator scope : String) : Member → List Leaf
  | column _ name type => [⟨scopedName scope separator name, type⟩]
  | embedded _ name members => allLeaves separator (scopedName scope separator name) members
  | inline _ members => allLeaves separator scope members
  | skipped _ _ => []

def allLeaves (separator scope : String) : List Member → List Leaf
  | [] => []
  | m :: ms => leaves separator scope m ++ allLeaves separator scope ms

end

mutual

theorem names_leaves (separator : String) : (m : Member) → (scope : String) →
    (leaves separator scope m).map Leaf.name = Field.allNames separator scope m.columns
  | column _ _ _, _ => rfl
  | embedded _ _ members, _ => by
    simpa [leaves, columns, Field.allNames, Field.names] using names_allLeaves separator members _
  | inline _ members, _ => by
    simpa [leaves, columns, Field.allNames, Field.names] using names_allLeaves separator members _
  | skipped _ _, _ => rfl

/-- Records read the columns that they list. -/
theorem names_allLeaves (separator : String) : (ms : List Member) → (scope : String) →
    (allLeaves separator scope ms).map Leaf.name = Field.allNames separator scope (allColumns ms)
  | [], _ => rfl
  | m :: ms, scope => by
    rw [allLeaves, List.map_append, names_leaves separator m, names_allLeaves separator ms,
      allColumns, Field.allNames_append]

end

mutual

/-- The field holds what is carried, leaf by leaf, and its default where it is skipped. -/
inductive Fills : Member → List Carried → String × Reading → Prop
  | column {field name : String} {type : ColumnType} {carrier : type.Carrier} :
      Fills (.column field name type) [⟨type, carrier⟩] (field, .value type carrier)
  | embedded {field name : String} {members : List Member} {vs : List Carried}
      {fields : List (String × Reading)} (filled : FillsAll members vs fields) :
      Fills (.embedded field name members) vs (field, .record fields)
  | inline {field : String} {members : List Member} {vs : List Carried}
      {fields : List (String × Reading)} (filled : FillsAll members vs fields) :
      Fills (.inline field members) vs (field, .record fields)
  | skipped {field : String} {fixed : Reading} : Fills (.skipped field fixed) [] (field, fixed)

inductive FillsAll : List Member → List Carried → List (String × Reading) → Prop
  | nil : FillsAll [] [] []
  | cons {m : Member} {ms : List Member} {vs ws : List Carried} {field : String × Reading}
      {fields : List (String × Reading)} (first : Fills m vs field) (rest : FillsAll ms ws fields) :
      FillsAll (m :: ms) (vs ++ ws) (field :: fields)

end

theorem fillsAll_cons_iff {m : Member} {ms : List Member} {all : List Carried}
    {fields : List (String × Reading)} :
    FillsAll (m :: ms) all fields ↔ ∃ vs ws field rest, all = vs ++ ws ∧
      fields = field :: rest ∧ Fills m vs field ∧ FillsAll ms ws rest := by
  constructor
  · rintro (_ | ⟨first, rest⟩)
    exact ⟨_, _, _, _, rfl, rfl, first, rest⟩
  · rintro ⟨vs, ws, field, rest, rfl, rfl, hfirst, hrest⟩
    exact .cons hfirst hrest

mutual

theorem length_of_fills (separator : String) : {m : Member} → {vs : List Carried} →
    {field : String × Reading} → Fills m vs field → ∀ scope,
    vs.length = (leaves separator scope m).length
  | _, _, _, .column, _ => rfl
  | _, _, _, .embedded filled, _ => length_of_fillsAll separator filled _
  | _, _, _, .inline filled, _ => length_of_fillsAll separator filled _
  | _, _, _, .skipped, _ => rfl

theorem length_of_fillsAll (separator : String) : {ms : List Member} → {vs : List Carried} →
    {fields : List (String × Reading)} → FillsAll ms vs fields → ∀ scope,
    vs.length = (allLeaves separator scope ms).length
  | _, _, _, .nil, _ => rfl
  | _, _, _, .cons first rest, scope => by
    simp [allLeaves, length_of_fills separator first scope, length_of_fillsAll separator rest scope]

end

mutual

theorem Fills.unique : {m : Member} → {vs : List Carried} → {f g : String × Reading} →
    Fills m vs f → Fills m vs g → f = g
  | _, _, _, _, .column, .column => rfl
  | _, _, _, _, .embedded filled, .embedded filled' => by rw [filled.unique filled']
  | _, _, _, _, .inline filled, .inline filled' => by rw [filled.unique filled']
  | _, _, _, _, .skipped, .skipped => rfl

theorem FillsAll.unique : {ms : List Member} → {vs : List Carried} →
    {fs gs : List (String × Reading)} → FillsAll ms vs fs → FillsAll ms vs gs → fs = gs
  | [], _, _, _, .nil, .nil => rfl
  | _ :: _, _, _, _, @FillsAll.cons _ _ vs ws _ _ first rest, hg => by
    -- Two ways to cut the carried values agree, since the number of leaves of a field is fixed.
    generalize hall : vs ++ ws = all at hg
    cases hg with
    | @cons _ _ vs' ws' _ _ first' rest' =>
      have hlength : vs.length = vs'.length :=
        (length_of_fills "" first "").trans (length_of_fills "" first' "").symm
      obtain ⟨rfl, rfl⟩ := List.append_inj hall hlength
      rw [first.unique first', rest.unique rest']

end

/-- What reading the leaves of a record and reading the record itself come to. -/
inductive Outcome (ms : List Member) :
    Except Error (List Carried) → Except Error (List (String × Reading)) → Prop
  | ok {vs : List Carried} {fields : List (String × Reading)} (filled : FillsAll ms vs fields) :
      Outcome ms (.ok vs) (.ok fields)
  | error (e : Error) : Outcome ms (.error e) (.error e)

inductive OutcomeOne (m : Member) :
    Except Error (List Carried) → Except Error (String × Reading) → Prop
  | ok {vs : List Carried} {field : String × Reading} (filled : Fills m vs field) :
      OutcomeOne m (.ok vs) (.ok field)
  | error (e : Error) : OutcomeOne m (.error e) (.error e)

variable {h : Header}

mutual

theorem outcome_read (row : Row h) : (m : Member) → (scope : String) →
    OutcomeOne m ((leaves h.separator scope m).mapM row.leaf) (read row scope m)
  | column field name type, scope => by
    simp only [leaves, List.mapM_cons, List.mapM_nil, read, Row.leaf, Row.scopedName]
    cases row.column type (scopedName scope h.separator name) with
    | error e => exact .error e
    | ok carrier => exact .ok .column
  | embedded field name members, scope => by
    have houtcome := outcome_readAll row members (row.scopedName scope name)
    simp only [leaves, read, Row.scopedName] at houtcome ⊢
    generalize List.mapM row.leaf _ = carried, readAll row _ members = fields at houtcome ⊢
    cases houtcome with
    | error e => exact .error e
    | ok filled => exact .ok (.embedded filled)
  | inline field members, scope => by
    have houtcome := outcome_readAll row members scope
    simp only [leaves, read]
    generalize List.mapM row.leaf _ = carried, readAll row _ members = fields at houtcome ⊢
    cases houtcome with
    | error e => exact .error e
    | ok filled => exact .ok (.inline filled)
  | skipped field fixed, scope => .ok .skipped

theorem outcome_readAll (row : Row h) : (ms : List Member) → (scope : String) →
    Outcome ms ((allLeaves h.separator scope ms).mapM row.leaf) (readAll row scope ms)
  | [], scope => .ok .nil
  | m :: ms, scope => by
    have hfirst := outcome_read row m scope
    have hrest := outcome_readAll row ms scope
    simp only [allLeaves, List.mapM_append, readAll]
    generalize List.mapM row.leaf (leaves _ _ m) = vs, read row scope m = field at hfirst ⊢
    generalize List.mapM row.leaf (allLeaves _ _ ms) = ws, readAll row scope ms = fields at hrest ⊢
    cases hfirst with
    | error e => exact .error e
    | ok first =>
      cases hrest with
      | error e => exact .error e
      | ok rest => exact .ok (.cons first rest)

end

theorem Outcome.unique {ms : List Member} {carried : Except Error (List Carried)}
    {result result' : Except Error (List (String × Reading))} (ho : Outcome ms carried result)
    (ho' : Outcome ms carried result') : result = result' := by
  cases ho with
  | error e =>
    cases ho' with
    | error => rfl
  | ok filled =>
    cases ho' with
    | ok filled' => rw [filled.unique filled']

end Member

/-! ### Records in rows -/

namespace RowReader

variable {h : Header} {row : Row h} {scope : String} {ms : List Member}

theorem record_ok_iff {r : Reading} :
    (record ms).readWithin row scope = .ok r ↔ ∃ vs fields,
      List.Forall₂ row.Holds (Member.allLeaves h.separator scope ms) vs ∧
        Member.FillsAll ms vs fields ∧ r = .record fields := by
  have houtcome := Member.outcome_readAll row ms scope
  simp only [record, bind_ok_iff, pure, Except.pure, Except.ok.injEq, ← Row.mapM_leaf_ok_iff]
  generalize List.mapM row.leaf _ = carried, Member.readAll row scope ms = result at houtcome ⊢
  cases houtcome with
  | error e => simp
  | @ok vs fields filled =>
    constructor
    · rintro ⟨fields', hfields, rfl⟩
      obtain rfl := Except.ok.inj hfields
      exact ⟨vs, fields, rfl, filled, rfl⟩
    · rintro ⟨vs', fields', hvs, filled', rfl⟩
      obtain rfl := Except.ok.inj hvs
      exact ⟨fields', by rw [filled.unique filled'], rfl⟩

theorem record_error_iff {e : Error} :
    (record ms).readWithin row scope = .error e ↔ ∃ front l back,
      Member.allLeaves h.separator scope ms = front ++ l :: back ∧
        (∀ k ∈ front, ∃ v, row.Holds k v) ∧ row.Lacks l e := by
  have houtcome := Member.outcome_readAll row ms scope
  rw [← Row.mapM_leaf_error_iff]
  simp only [record]
  generalize List.mapM row.leaf _ = carried, Member.readAll row scope ms = result at houtcome ⊢
  cases houtcome with
  | error e' => simp [bind, Except.bind]
  | ok filled => simp [bind, Except.bind, pure, Except.pure]

theorem exists_record_iff :
    (∃ r, (record ms).readWithin row scope = .ok r) ↔
      ∀ l ∈ Member.allLeaves h.separator scope ms, ∃ v, row.Holds l v := by
  rw [← exists_forall₂_iff]
  constructor
  · rintro ⟨r, hr⟩
    obtain ⟨vs, fields, hholds, -, -⟩ := record_ok_iff.mp hr
    exact ⟨vs, hholds⟩
  · rintro ⟨vs, hholds⟩
    cases hread : (record ms).readWithin row scope with
    | ok r => exact ⟨r, rfl⟩
    | error e =>
      obtain ⟨front, l, back, hsplit, -, hlacks⟩ := record_error_iff.mp hread
      obtain ⟨v, hv⟩ := exists_forall₂_iff.mp ⟨vs, hholds⟩ l (by simp [hsplit])
      have hleaf := (Row.leaf_ok_iff.mpr hv).symm.trans (Row.leaf_error_iff.mpr hlacks)
      contradiction

/-- Rows with one separator and the same values under the names of the leaves are read alike. -/
theorem record_congr {h' : Header} {row' : Row h'} (hseparator : h'.separator = h.separator)
    (hget : ∀ l ∈ Member.allLeaves h.separator scope ms, row'.get? l.name = row.get? l.name) :
    (record ms).readWithin row' scope = (record ms).readWithin row scope := by
  have hleaves : (Member.allLeaves h'.separator scope ms).mapM row'.leaf =
      (Member.allLeaves h.separator scope ms).mapM row.leaf := by
    rw [hseparator]
    exact mapM_congr fun l hl => by rw [Row.leaf_eq, Row.leaf_eq, hget l hl]
  have houtcome := Member.outcome_readAll row' ms scope
  rw [hleaves] at houtcome
  simp only [record, houtcome.unique (Member.outcome_readAll row ms scope)]

/-- A row whose columns are the leaves fills the record with its values in their order. -/
theorem record_of_names
    (hnames : h.names = (Member.allLeaves h.separator scope ms).map Leaf.name)
    (hdistinct : h.names.Nodup) {vs : List Carried}
    (hdecodes : List.Forall₂ (fun entry v => entry.1.Decodes entry.2 v)
      ((Member.allLeaves h.separator scope ms).zip row.values) vs) :
    ∃ fields, Member.FillsAll ms vs fields ∧
      (record ms).readWithin row scope = .ok (.record fields) := by
  generalize hl : Member.allLeaves h.separator scope ms = leaves at hnames hdecodes
  have hlength : leaves.length = row.values.length := by
    rw [row.length_eq, hnames, List.length_map]
  obtain ⟨hcount, hget⟩ := List.forall₂_iff_get.mp hdecodes
  have hholds : List.Forall₂ row.Holds leaves vs := by
    refine List.forall₂_iff_get.mpr ⟨by simpa [hlength] using hcount, fun k hk hv => ?_⟩
    have hplace : k < h.names.length := by simpa [hnames] using hk
    have hfirst := Header.isFirst_of_nodup hdistinct ⟨k, hplace⟩
    have hname : h.names[k] = leaves[k].name := by simp [hnames]
    refine ⟨⟨k, hplace⟩, by simpa [hname] using hfirst, ?_⟩
    simpa [Row.valueAt] using hget k (by simpa [← hlength] using hk) hv
  rw [← hl] at hholds
  obtain ⟨r, hr⟩ := exists_record_iff.mpr (exists_forall₂_iff.mp ⟨vs, hholds⟩)
  obtain ⟨vs', fields, hholds', filled, rfl⟩ := record_ok_iff.mp hr
  obtain rfl : vs = vs' := Except.ok.inj <|
    (Row.mapM_leaf_ok_iff.mpr hholds).symm.trans (Row.mapM_leaf_ok_iff.mpr hholds')
  exact ⟨fields, filled, hr⟩

end RowReader

end QueryKit
