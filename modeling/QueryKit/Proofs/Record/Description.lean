import QueryKit.Proofs.Record.Leaf
import QueryKit.Record.Declaration

/-! Records described by nested declarations. A declaration is used twice, to read records from rows
and to list their columns. Both uses go over a description from the inside out, and from every
description that can be read they derive the same columns in the same order. -/

namespace QueryKit

open Check

/-- A type as it is described: a column type, or a record type by its declaration. -/
inductive Described
  | column (t : ColumnType)
  | record (d : Declaration Described)

/-- What the listing of columns knows of a type. -/
inductive Listed
  | column
  | record (fields : List Field)

/-- The column or the record that is listed for a mapping, if the type suits the role. -/
def Mapping.field? (m : Mapping Listed) : Option Field :=
  match m.role, m.type with
  | .column name, _ => some (.column name)
  | .embedded name, .record fields => some (.embedded name fields)
  | .inline, .record fields => some (.inline fields)
  | _, _ => none

/-- The columns of a declared record type, if the declaration has no fault and all types suit. -/
def Declaration.fields? (d : Declaration Listed) : Option (List Field) := do
  let ms ← d.listPlan.toOption
  ms.mapM Mapping.field?

namespace Described

mutual

/-- What a type comes to, given what column types and declarations come to. -/
def derive? {σ : Type} (column : ColumnType → σ) (record : Declaration σ → Option σ) :
    Described → Option σ
  | .column t => some (column t)
  | .record ⟨shape, attributes, fields⟩ => do
    let fields ← deriveFields? column record fields
    record ⟨shape, attributes, fields⟩

def deriveFields? {σ : Type} (column : ColumnType → σ) (record : Declaration σ → Option σ) :
    List (FieldDeclaration Described) → Option (List (FieldDeclaration σ))
  | [] => some []
  | ⟨field, type, attributes⟩ :: fields => do
    let type ← derive? column record type
    let rest ← deriveFields? column record fields
    pure (⟨field, type, attributes⟩ :: rest)

end

def readRecord? (d : Declaration FieldType) : Option FieldType :=
  d.members?.map .record

def listRecord? (d : Declaration Listed) : Option Listed :=
  d.fields?.map .record

/-- How the type is read from a row. -/
def reading? : Described → Option FieldType :=
  derive? .column readRecord?

/-- Which columns the type has. -/
def listing? : Described → Option Listed :=
  derive? (fun _ => .column) listRecord?

end Described

/-! ### One declaration in both uses -/

section Uses

variable {τ σ : Type} (φ : τ → σ)

def FieldDeclaration.map (f : FieldDeclaration τ) : FieldDeclaration σ :=
  ⟨f.field, φ f.type, f.attributes⟩

def Mapping.map (m : Mapping τ) : Mapping σ :=
  ⟨m.field, φ m.type, m.role⟩

/-- The role of a field does not depend on its type. -/
theorem FieldDeclaration.mapping_retyped {style : Option Text.CaseStyle} {f : FieldDeclaration τ}
    {m : Mapping τ} (h : f.mapping style = .ok m) (type : σ) :
    m.field = f.field ∧ m.type = f.type ∧
      (FieldDeclaration.mk f.field type f.attributes).mapping style =
        .ok ⟨f.field, type, m.role⟩ := by
  obtain ⟨o, ho, hm⟩ := bind_ok_iff.mp h
  obtain rfl := Except.ok.inj hm
  exact ⟨rfl, rfl, bind_ok_iff.mpr ⟨o, ho, rfl⟩⟩

namespace Declaration

theorem mappings_ok_iff {d : Declaration τ} {use : DeclarationUse} {plan : List (Mapping τ)} :
    d.mappings use = .ok plan ↔ d.shape = .struct ∧ ∃ style,
      Attribute.style d.attributes = .ok style ∧
        List.Forall₂ (fun f m => FieldDeclaration.mapping style f = .ok m) d.fields plan := by
  have hshape : d.checkShape use = .ok () ↔ d.shape = .struct := by
    unfold checkShape
    cases d.shape <;> simp
  simp [mappings, hshape, mapM_ok_iff]

theorem listPlan_of_readPlan {d : Declaration τ} {plan : List (Mapping τ)}
    (h : d.readPlan = .ok plan) :
    (Declaration.mk d.shape d.attributes (d.fields.map (FieldDeclaration.map φ))).listPlan =
      .ok ((plan.filter fun m => m.role ≠ .skipped).map (Mapping.map φ)) := by
  obtain ⟨hshape, style, hstyle, hfields⟩ := mappings_ok_iff.mp h
  have hmapped : List.Forall₂ (fun f m => FieldDeclaration.mapping style f = .ok m)
      (d.fields.map (FieldDeclaration.map φ)) (plan.map (Mapping.map φ)) := by
    rw [List.forall₂_map_left_iff, List.forall₂_map_right_iff]
    refine hfields.imp fun f m hm => ?_
    obtain ⟨hfield, htype, hmapped⟩ := FieldDeclaration.mapping_retyped hm (φ f.type)
    rw [FieldDeclaration.map, Mapping.map, hfield, htype, hmapped]
  refine bind_ok_iff.mpr ⟨_, mappings_ok_iff.mpr ⟨hshape, style, hstyle, hmapped⟩, ?_⟩
  rw [List.filter_map]
  rfl

end Declaration

end Uses

/-- What is listed of a type that is read. -/
def FieldType.listed : FieldType → Listed
  | column _ => .column
  | record members => .record (Member.allColumns members)

namespace Mapping

variable {m : Mapping FieldType} {member : Member}

theorem columns_of_skipped (hmember : m.member? = some member) (hrole : m.role = .skipped) :
    member.columns = [] := by
  obtain ⟨field, type, role⟩ := m
  obtain rfl := hrole
  obtain rfl := Option.some.inj hmember
  rfl

/-- A mapping that is read is listed with the columns that are read. -/
theorem field?_of_member? (hmember : m.member? = some member) (hrole : m.role ≠ .skipped) :
    ∃ f, (m.map FieldType.listed).field? = some f ∧ member.columns = [f] := by
  obtain ⟨field, type, role⟩ := m
  cases role with
  | skipped => contradiction
  | column name =>
    cases type with
    | record => contradiction
    | column t =>
      obtain rfl := Option.some.inj hmember
      exact ⟨.column name, rfl, rfl⟩
  | embedded name =>
    cases type with
    | column => contradiction
    | record members =>
      obtain rfl := Option.some.inj hmember
      exact ⟨.embedded name (Member.allColumns members), rfl, rfl⟩
  | inline =>
    cases type with
    | column => contradiction
    | record members =>
      obtain rfl := Option.some.inj hmember
      exact ⟨.inline (Member.allColumns members), rfl, rfl⟩

theorem fields?_of_members? {plan : List (Mapping FieldType)} {ms : List Member}
    (h : List.Forall₂ (fun (m : Mapping FieldType) member => m.member? = some member) plan ms) :
    ((plan.filter fun m => m.role ≠ .skipped).map (map FieldType.listed)).mapM field? =
      some (Member.allColumns ms) := by
  induction h with
  | nil => rfl
  | @cons m member plan ms hmember _ ih =>
    by_cases hrole : m.role = .skipped
    · simp only [List.filter_cons, hrole, ne_eq, not_true_eq_false, decide_false,
        Bool.false_eq_true, if_false, Member.allColumns, columns_of_skipped hmember hrole,
        List.nil_append]
      exact ih
    · obtain ⟨f, hf, hcolumns⟩ := field?_of_member? hmember hrole
      simp only [List.filter_cons, hrole, ne_eq, not_false_eq_true, decide_true, if_true,
        List.map_cons, List.mapM_cons, hf, Member.allColumns, hcolumns, List.singleton_append]
      simp only [ne_eq] at ih
      rw [ih]
      rfl

end Mapping

namespace Declaration

theorem members?_eq_some_iff {d : Declaration FieldType} {ms : List Member} :
    d.members? = some ms ↔ ∃ plan, d.readPlan = .ok plan ∧
      List.Forall₂ (fun (m : Mapping FieldType) member => m.member? = some member) plan ms := by
  simp only [members?, Option.bind_eq_bind, Option.bind_eq_some_iff, mapM_eq_some_iff]
  constructor
  · rintro ⟨plan, hplan, hmembers⟩
    cases hread : d.readPlan with
    | error e => simp [hread, Except.toOption] at hplan
    | ok plan' =>
      obtain rfl : plan' = plan := by simpa [hread, Except.toOption] using hplan
      exact ⟨plan', rfl, hmembers⟩
  · rintro ⟨plan, hplan, hmembers⟩
    exact ⟨plan, by rw [hplan]; rfl, hmembers⟩

theorem fields?_of_members? {d : Declaration FieldType} {ms : List Member}
    (h : d.members? = some ms) :
    (mk d.shape d.attributes (d.fields.map (FieldDeclaration.map FieldType.listed))).fields? =
      some (Member.allColumns ms) := by
  obtain ⟨plan, hplan, hmembers⟩ := members?_eq_some_iff.mp h
  rw [fields?, listPlan_of_readPlan FieldType.listed hplan]
  exact Mapping.fields?_of_members? hmembers

end Declaration

namespace Described

theorem derive?_record_eq_some_iff {σ : Type} {column : ColumnType → σ}
    {record : Declaration σ → Option σ} {shape : DeclarationShape} {attributes : List Attribute}
    {fields : List (FieldDeclaration Described)} {t : σ} :
    derive? column record (.record ⟨shape, attributes, fields⟩) = some t ↔
      ∃ types, deriveFields? column record fields = some types ∧
        record ⟨shape, attributes, types⟩ = some t := by
  simp [derive?, Option.bind_eq_some_iff]

theorem deriveFields?_cons_eq_some_iff {σ : Type} {column : ColumnType → σ}
    {record : Declaration σ → Option σ} {field : String} {type : Described}
    {attributes : List Attribute} {fields : List (FieldDeclaration Described)}
    {types : List (FieldDeclaration σ)} :
    deriveFields? column record (⟨field, type, attributes⟩ :: fields) = some types ↔
      ∃ t ts, derive? column record type = some t ∧ deriveFields? column record fields = some ts ∧
        types = ⟨field, t, attributes⟩ :: ts := by
  simp [deriveFields?, Option.bind_eq_some_iff, @eq_comm _ types]

theorem readRecord?_eq_some_iff {d : Declaration FieldType} {t : FieldType} :
    readRecord? d = some t ↔ ∃ ms, d.members? = some ms ∧ t = .record ms := by
  simp [readRecord?, @eq_comm _ t]

mutual

/-- A type that can be read is listed with the columns that are read. -/
theorem listing?_of_reading? : (type : Described) → {t : FieldType} → reading? type = some t →
    listing? type = some t.listed
  | .column t, _, h => by
    obtain rfl := Option.some.inj h
    rfl
  | .record ⟨shape, attributes, fields⟩, _, h => by
    obtain ⟨types, htypes, hrecord⟩ := derive?_record_eq_some_iff.mp h
    obtain ⟨ms, hms, rfl⟩ := readRecord?_eq_some_iff.mp hrecord
    -- The fields are listed by induction; what is left is one declaration without any nesting.
    refine derive?_record_eq_some_iff.mpr ⟨_, listFields?_of_readFields? fields htypes, ?_⟩
    simp only [listRecord?]
    rw [Declaration.fields?_of_members? hms]
    rfl

theorem listFields?_of_readFields? : (fields : List (FieldDeclaration Described)) →
    {types : List (FieldDeclaration FieldType)} →
    deriveFields? .column readRecord? fields = some types →
    deriveFields? (fun _ => .column) listRecord? fields =
      some (types.map (FieldDeclaration.map FieldType.listed))
  | [], _, h => by
    obtain rfl := Option.some.inj h
    rfl
  | ⟨field, type, attributes⟩ :: fields, _, h => by
    obtain ⟨t, ts, ht, hts, rfl⟩ := deriveFields?_cons_eq_some_iff.mp h
    exact deriveFields?_cons_eq_some_iff.mpr
      ⟨_, _, listing?_of_reading? type ht, listFields?_of_readFields? fields hts, rfl⟩

end

mutual

/-- What is read of the type holds what is carried, leaf by leaf, and a default for each field that
is skipped. -/
inductive Fills : Described → List Carried → Reading → Prop
  | column {t : ColumnType} {carrier : t.Carrier} :
      Fills (.column t) [⟨t, carrier⟩] (.value t carrier)
  | record {d : Declaration Described} {style : Option Text.CaseStyle} {vs : List Carried}
      {fields : List (String × Reading)} (styled : Attribute.style d.attributes = .ok style)
      (filled : FillsFields style d.fields vs fields) : Fills (.record d) vs (.record fields)

inductive FillsFields : Option Text.CaseStyle → List (FieldDeclaration Described) → List Carried →
    List (String × Reading) → Prop
  | nil {style : Option Text.CaseStyle} : FillsFields style [] [] []
  | skipped {style : Option Text.CaseStyle} {f : FieldDeclaration Described}
      {fs : List (FieldDeclaration Described)} {m : Mapping Described} {type : FieldType}
      {vs : List Carried} {fields : List (String × Reading)} (mapped : f.mapping style = .ok m)
      (role : m.role = .skipped) (typed : reading? f.type = some type)
      (rest : FillsFields style fs vs fields) :
      FillsFields style (f :: fs) vs ((f.field, type.blank) :: fields)
  | kept {style : Option Text.CaseStyle} {f : FieldDeclaration Described}
      {fs : List (FieldDeclaration Described)} {m : Mapping Described} {vs ws : List Carried}
      {reading : Reading} {fields : List (String × Reading)} (mapped : f.mapping style = .ok m)
      (role : m.role ≠ .skipped) (first : Fills f.type vs reading)
      (rest : FillsFields style fs ws fields) :
      FillsFields style (f :: fs) (vs ++ ws) ((f.field, reading) :: fields)

end

end Described

/-- A reading of the type that holds what is carried. -/
def FieldType.Fills : FieldType → List Carried → Reading → Prop
  | column t, vs, r => ∃ carrier : t.Carrier, vs = [⟨t, carrier⟩] ∧ r = .value t carrier
  | record members, vs, r => ∃ fields, Member.FillsAll members vs fields ∧ r = .record fields

namespace Mapping

variable {m : Mapping FieldType} {member : Member} {vs : List Carried} {field : String × Reading}

theorem fills_iff_of_skipped (hmember : m.member? = some member) (hrole : m.role = .skipped) :
    Member.Fills member vs field ↔ vs = [] ∧ field = (m.field, m.type.blank) := by
  obtain ⟨name, type, role⟩ := m
  obtain rfl := hrole
  obtain rfl := Option.some.inj hmember
  constructor
  · rintro ⟨⟩
    exact ⟨rfl, rfl⟩
  · rintro ⟨rfl, rfl⟩
    exact .skipped

theorem fills_iff_of_kept (hmember : m.member? = some member) (hrole : m.role ≠ .skipped) :
    Member.Fills member vs field ↔ field.1 = m.field ∧ m.type.Fills vs field.2 := by
  obtain ⟨name, type, role⟩ := m
  obtain ⟨key, reading⟩ := field
  cases role with
  | skipped => contradiction
  | column =>
    cases type with
    | record => contradiction
    | column t =>
      obtain rfl := Option.some.inj hmember
      constructor
      · rintro ⟨⟩
        exact ⟨rfl, _, rfl, rfl⟩
      · rintro ⟨rfl, carrier, rfl, rfl⟩
        exact .column
  | embedded =>
    cases type with
    | column => contradiction
    | record members =>
      obtain rfl := Option.some.inj hmember
      constructor
      · rintro (_ | filled)
        exact ⟨rfl, _, filled, rfl⟩
      · rintro ⟨rfl, fields, filled, rfl⟩
        exact .embedded filled
  | inline =>
    cases type with
    | column => contradiction
    | record members =>
      obtain rfl := Option.some.inj hmember
      constructor
      · rintro (_ | _ | filled)
        exact ⟨rfl, _, filled, rfl⟩
      · rintro ⟨rfl, fields, filled, rfl⟩
        exact .inline filled

end Mapping

namespace Described

section Fields

variable {style : Option Text.CaseStyle} {f : FieldDeclaration Described}
  {fs : List (FieldDeclaration Described)} {m : Mapping Described} {all : List Carried}
  {fields : List (String × Reading)}

theorem fillsFields_cons_of_skipped (hm : f.mapping style = .ok m) (hrole : m.role = .skipped) :
    FillsFields style (f :: fs) all fields ↔ ∃ type rest, reading? f.type = some type ∧
      fields = (f.field, type.blank) :: rest ∧ FillsFields style fs all rest := by
  constructor
  · rintro (_ | ⟨_, _, htype, hrest⟩ | ⟨hm', hrole', _, _⟩)
    · exact ⟨_, _, htype, rfl, hrest⟩
    · obtain rfl := Except.ok.inj (hm.symm.trans hm')
      contradiction
  · rintro ⟨type, rest, htype, rfl, hrest⟩
    exact .skipped hm hrole htype hrest

theorem fillsFields_cons_of_kept (hm : f.mapping style = .ok m) (hrole : m.role ≠ .skipped) :
    FillsFields style (f :: fs) all fields ↔ ∃ vs ws reading rest, all = vs ++ ws ∧
      fields = (f.field, reading) :: rest ∧ Fills f.type vs reading ∧
        FillsFields style fs ws rest := by
  constructor
  · rintro (_ | ⟨hm', hrole', _, _⟩ | ⟨_, _, hfirst, hrest⟩)
    · obtain rfl := Except.ok.inj (hm.symm.trans hm')
      contradiction
    · exact ⟨_, _, _, _, rfl, rfl, hfirst, hrest⟩
  · rintro ⟨vs, ws, reading, rest, rfl, rfl, hfirst, hrest⟩
    exact .kept hm hrole hfirst hrest

end Fields

mutual

theorem fills_iff : (type : Described) → {t : FieldType} → {vs : List Carried} → {r : Reading} →
    reading? type = some t → (Fills type vs r ↔ t.Fills vs r)
  | .column t, _, vs, r, h => by
    obtain rfl := Option.some.inj h
    constructor
    · rintro ⟨⟩
      exact ⟨_, rfl, rfl⟩
    · rintro ⟨carrier, rfl, rfl⟩
      exact .column
  | .record ⟨shape, attributes, fields⟩, _, vs, r, h => by
    obtain ⟨types, htypes, hrecord⟩ := derive?_record_eq_some_iff.mp h
    obtain ⟨ms, hms, rfl⟩ := readRecord?_eq_some_iff.mp hrecord
    obtain ⟨plan, hplan, hmembers⟩ := Declaration.members?_eq_some_iff.mp hms
    obtain ⟨-, style, hstyle, hfields⟩ := Declaration.mappings_ok_iff.mp hplan
    have hiff : ∀ {rs}, FillsFields style fields vs rs ↔ Member.FillsAll ms vs rs :=
      fillsFields_iff fields htypes hfields hmembers
    constructor
    · rintro (_ | ⟨hstyle', filled⟩)
      obtain rfl := Except.ok.inj (hstyle.symm.trans hstyle')
      exact ⟨_, hiff.mp filled, rfl⟩
    · rintro ⟨rs, filled, rfl⟩
      exact .record hstyle (hiff.mpr filled)

theorem fillsFields_iff {style : Option Text.CaseStyle} :
    (fields : List (FieldDeclaration Described)) → {types : List (FieldDeclaration FieldType)} →
    {plan : List (Mapping FieldType)} → {ms : List Member} → {vs : List Carried} →
    {rs : List (String × Reading)} → deriveFields? .column readRecord? fields = some types →
    List.Forall₂ (fun f m => FieldDeclaration.mapping style f = .ok m) types plan →
    List.Forall₂ (fun (m : Mapping FieldType) member => m.member? = some member) plan ms →
    (FillsFields style fields vs rs ↔ Member.FillsAll ms vs rs)
  | [], _, _, _, vs, rs, htypes, hplan, hmembers => by
    obtain rfl := Option.some.inj htypes
    obtain rfl := List.forall₂_nil_left_iff.mp hplan
    obtain rfl := List.forall₂_nil_left_iff.mp hmembers
    constructor
    · rintro ⟨⟩
      exact .nil
    · rintro ⟨⟩
      exact .nil
  | ⟨field, type, attributes⟩ :: fields, _, _, _, vs, rs, htypes, hplan, hmembers => by
    obtain ⟨t, ts, ht, hts, rfl⟩ := deriveFields?_cons_eq_some_iff.mp htypes
    obtain ⟨m, plan, hm, hmore, rfl⟩ := List.forall₂_cons_left_iff.mp hplan
    obtain ⟨member, ms, hmember, hothers, rfl⟩ := List.forall₂_cons_left_iff.mp hmembers
    have hiff : ∀ {ws rest}, FillsFields style fields ws rest ↔ Member.FillsAll ms ws rest :=
      fillsFields_iff fields hts hmore hothers
    -- `FillsFields` asks for the role of the field as it is described, and the plan has that of the
    -- field with its reading in place of its type.
    obtain ⟨hfield, htype, hretyped⟩ := FieldDeclaration.mapping_retyped hm type
    dsimp only at hfield htype hretyped
    rw [Member.fillsAll_cons_iff]
    by_cases hrole : m.role = .skipped
    · rw [fillsFields_cons_of_skipped hretyped hrole]
      constructor
      · rintro ⟨t', rest, ht', rfl, hrest⟩
        obtain rfl := Option.some.inj (ht.symm.trans ht')
        refine ⟨[], vs, _, rest, rfl, rfl, ?_, hiff.mp hrest⟩
        exact (Mapping.fills_iff_of_skipped hmember hrole).mpr ⟨rfl, by rw [hfield, htype]⟩
      · rintro ⟨ws, ws', field', rest, rfl, rfl, hfirst, hrest⟩
        obtain ⟨rfl, rfl⟩ := (Mapping.fills_iff_of_skipped hmember hrole).mp hfirst
        exact ⟨t, rest, ht, by rw [hfield, htype],
          hiff.mpr hrest⟩
    · rw [fillsFields_cons_of_kept hretyped hrole]
      constructor
      · rintro ⟨ws, ws', r, rest, rfl, rfl, hfirst, hrest⟩
        refine ⟨ws, ws', _, rest, rfl, rfl, ?_, hiff.mp hrest⟩
        rw [Mapping.fills_iff_of_kept hmember hrole, hfield, htype]
        exact ⟨rfl, (fills_iff type ht).mp hfirst⟩
      · rintro ⟨ws, ws', ⟨key, r⟩, rest, rfl, rfl, hfirst, hrest⟩
        rw [Mapping.fills_iff_of_kept hmember hrole, hfield, htype] at hfirst
        obtain ⟨rfl, hfirst⟩ := hfirst
        exact ⟨ws, ws', r, rest, rfl, rfl, (fills_iff type ht).mpr hfirst,
          hiff.mpr hrest⟩

end

/-- A record that can be read from rows is listed, and reads the columns that are listed for it, in
their order. It is read exactly if the row has each of them and its first occurrence can be read, and
then it holds what they hold; otherwise the error is that of the first one that is missing or cannot
be read. -/
theorem records_read_the_listed_columns (d : Declaration Described) (ms : List Member)
    (hreading : reading? (.record d) = some (.record ms)) {h : Header} (row : Row h)
    (scope : String) :
    ∃ fields, listing? (.record d) = some (.record fields) ∧
      let names := Field.allNames h.separator scope fields
      let leaves := Member.allLeaves h.separator scope ms
      let result := (RowReader.record ms).readWithin row scope
      leaves.map Leaf.name = names ∧
        (∀ r, result = .ok r ↔
          ∃ vs, List.Forall₂ row.Holds leaves vs ∧ Fills (.record d) vs r) ∧
        ((∃ r, result = .ok r) ↔ ∀ l ∈ leaves, ∃ v, row.Holds l v) ∧
        (∀ e, result = .error e ↔ ∃ front l back, leaves = front ++ l :: back ∧
          (∀ k ∈ front, ∃ v, row.Holds k v) ∧ row.Lacks l e) ∧
        (∀ {h' : Header} (row' : Row h'), h'.separator = h.separator →
          (∀ name ∈ names, row'.get? name = row.get? name) →
            (RowReader.record ms).readWithin row' scope = result) ∧
        (h.names = names → names.Nodup → ∀ vs,
          List.Forall₂ (fun entry v => entry.1.Decodes entry.2 v) (leaves.zip row.values) vs →
            ∃ r, Fills (.record d) vs r ∧ result = .ok r) := by
  have hfills : ∀ vs r, Fills (.record d) vs r ↔
      ∃ fields, Member.FillsAll ms vs fields ∧ r = .record fields :=
    fun _ _ => fills_iff (.record d) hreading
  have hnames := Member.names_allLeaves h.separator ms scope
  refine ⟨Member.allColumns ms, listing?_of_reading? _ hreading, hnames, fun r => ?_,
    RowReader.exists_record_iff, fun e => RowReader.record_error_iff, ?_, ?_⟩
  · rw [RowReader.record_ok_iff]
    simp only [hfills]
    constructor
    · rintro ⟨vs, fields, hholds, filled, rfl⟩
      exact ⟨vs, hholds, fields, filled, rfl⟩
    · rintro ⟨vs, hholds, fields, filled, rfl⟩
      exact ⟨vs, fields, hholds, filled, rfl⟩
  · intro h' row' hseparator hget
    refine RowReader.record_congr hseparator fun l hl => hget l.name ?_
    rw [← hnames]
    exact List.mem_map_of_mem hl
  · intro hall hdistinct vs hdecodes
    obtain ⟨fields, filled, hread⟩ :=
      RowReader.record_of_names (hall.trans hnames.symm) (hall ▸ hdistinct) hdecodes
    exact ⟨.record fields, (hfills vs _).mpr ⟨fields, filled, rfl⟩, hread⟩

/-- An inline record within an embedded one, behind a renamed column and a field that is skipped. -/
theorem records_read_the_listed_columns_nested :
    let text (s : String) : Option AttributeValue := some (.text s)
    let audit : Declaration Described :=
      { fields := [⟨"created_by", .column .text, [⟨"column", text "by"⟩]⟩] }
    let address : Declaration Described :=
      { fields := [⟨"city", .column .text, []⟩,
          ⟨"audit", .record audit, [⟨"flatten", none⟩, ⟨"inline", none⟩]⟩] }
    let user : Declaration Described :=
      { fields := [⟨"note", .column .text, [⟨"skip", none⟩]⟩,
          ⟨"address", .record address, [⟨"flatten", none⟩, ⟨"column", text "home"⟩]⟩] }
    let members : List Member :=
      [.skipped "note" (.value .text ""),
        .embedded "address" "home"
          [.column "city" "city" .text, .inline "audit" [.column "created_by" "by" .text]]]
    let h : Header := { names := ["home_city", "home_by"] }
    let row : Row h := ⟨[.text "Oslo", .text "root"], rfl⟩
    reading? (.record user) = some (.record members) ∧
      ∃ r, Fills (.record user) [⟨.text, "Oslo"⟩, ⟨.text, "root"⟩] r ∧
        (RowReader.record members).readWithin row "" = .ok r := by
  intro text audit address user members h row
  have hreading : reading? (.record user) = some (.record members) := rfl
  obtain ⟨fields, hlisting, hnames, -, -, -, -, hfull⟩ :=
    records_read_the_listed_columns user members hreading row ""
  refine ⟨hreading, hfull ?_ ?_ _ ?_⟩
  · rw [← hnames]
    rfl
  · rw [← hnames]
    decide
  · exact .cons ⟨"Oslo", rfl, rfl⟩ (.cons ⟨"root", rfl, rfl⟩ .nil)

end Described

end QueryKit
