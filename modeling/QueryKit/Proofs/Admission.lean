import QueryKit.Proofs.Check
import QueryKit.Proofs.Reading.Tree

/-! Which statements are built. A statement is built exactly if it has its tables and its columns,
every leaf of every condition in it is sound, and its dialect can write its limit and the columns it
returns; what else is set does not matter. A name of a table is looked at by INSERT statements
alone: all others are built with blank names as they are with any. -/

namespace QueryKit

open Check

/-! ### Sound conditions -/

namespace Condition

/-- The columns of a leaf. -/
def columns : Condition → List Column
  | compare column _ _ | missing column _ | member column _ _ | between column _ _ _ => [column]
  | compareColumns left _ right => [left, right]
  | group _ _ | negation _ | verbatim _ | template _ _ => []

/-- No column in the tree is blank, and every template has as many marks as values. -/
structure IsSound (c : Condition) : Prop where
  columns : ∀ x ∈ c.leaves, ∀ column ∈ x.columns, column.isBlank = false
  templates : ∀ text values, template text values ∈ c.leaves →
    text.toList.count '?' = values.length

theorem check_ok_iff_of_isLeaf {x : Condition} (hleaf : x.isLeaf) :
    x.check = .ok () ↔ (∀ column ∈ x.columns, column.isBlank = false) ∧
      ∀ text values, x = template text values → text.toList.count '?' = values.length := by
  cases x with
  | group | negation => contradiction
  | template text values => simp [check, columns, checkTemplate_ok_iff]
  | _ => simp [check, columns, Column.check_ok_iff]

/-- The checks reach every leaf, whatever groups and contraries stand around it. -/
theorem check_ok_iff_leaves :
    (∀ c : Condition, c.check = .ok () ↔ ∀ x ∈ c.leaves, x.check = .ok ()) ∧
      ∀ cs, checkAll cs = .ok () ↔ ∀ x ∈ allLeaves cs, x.check = .ok () := by
  refine tree_induction ?_ ?_ ?_ ?_ ?_
  · intro c hleaf
    rw [leaves_of_isLeaf hleaf]
    simp
  · exact fun _ parts ih => ih
  · exact fun part ih => ih
  · simp [checkAll, allLeaves]
  · intro c cs ihc ihcs
    rw [allLeaves, List.forall_mem_append, ← ihc, ← ihcs]
    simp [checkAll]

theorem check_ok_iff_isSound {c : Condition} : c.check = .ok () ↔ c.IsSound := by
  rw [check_ok_iff_leaves.1]
  constructor
  · intro h
    have hleaf := fun x hx => (check_ok_iff_of_isLeaf (isLeaf_of_mem_leaves.1 c x hx)).mp (h x hx)
    exact ⟨fun x hx => (hleaf x hx).1, fun text values hx => (hleaf _ hx).2 text values rfl⟩
  · intro h x hx
    refine (check_ok_iff_of_isLeaf (isLeaf_of_mem_leaves.1 c x hx)).mpr ⟨h.columns x hx, ?_⟩
    rintro text values rfl
    exact h.templates text values hx

theorem checkAll_ok_iff_isSound {cs : List Condition} :
    checkAll cs = .ok () ↔ ∀ c ∈ cs, c.IsSound := by
  simp only [checkAll_ok_iff, check_ok_iff_isSound]

end Condition

theorem Join.checkAll_ok_iff_isSound {js : List Join} :
    checkAll js = .ok () ↔ ∀ c ∈ js.flatMap Join.conditions, c.IsSound := by
  simp only [checkAll_ok_iff, Condition.checkAll_ok_iff_isSound, List.forall_mem_flatMap]

namespace Assignment

/-- The column that is set. -/
def column : Assignment → Column
  | value column _ | verbatim column _ | template column _ _ => column

/-- The column is not blank, and a template has as many marks as values. -/
structure IsSound (a : Assignment) : Prop where
  column : a.column.isBlank = false
  template : ∀ column text values, a = template column text values →
    text.toList.count '?' = values.length

theorem check_ok_iff_isSound {a : Assignment} : a.check = .ok () ↔ a.IsSound := by
  have hstruct : a.IsSound ↔ a.column.isBlank = false ∧ ∀ column text values,
      a = .template column text values → text.toList.count '?' = values.length :=
    ⟨fun h => ⟨h.column, h.template⟩, fun h => ⟨h.1, h.2⟩⟩
  rw [hstruct]
  cases a with
  | template column text values =>
    simp [check, Assignment.column, Column.check_ok_iff, Condition.checkTemplate_ok_iff]
  | _ => simp [check, Assignment.column, Column.check_ok_iff]

end Assignment

/-! ### Statements that are built -/

namespace Draft

theorem exists_build_iff {d : Draft} :
    (∃ s, d.build = .ok s) ↔ d.admission = .ok () ∧ d.completion = .ok () := by
  simp only [build_ok_iff]
  constructor
  · rintro ⟨s, hadmission, hcompletion, -⟩
    exact ⟨hadmission, hcompletion⟩
  · rintro ⟨hadmission, hcompletion⟩
    exact ⟨_, hadmission, hcompletion, rfl⟩

/-- Whatever refuses a draft is a cause of its own kind. -/
theorem cause_of_build {d : Draft} {e : Error} (h : d.build = .error e) :
    ∃ cause, e = .build cause := by
  rcases bind_error_iff.mp h with h | ⟨-, -, h⟩
  · obtain ⟨cause, -, rfl⟩ := mapError_error_iff.mp h
    exact ⟨cause, rfl⟩
  · rcases bind_error_iff.mp h with h | ⟨-, -, h⟩
    · obtain ⟨cause, -, rfl⟩ := mapError_error_iff.mp h
      exact ⟨cause, rfl⟩
    · contradiction

end Draft

/-- The table without its alias. -/
def Table.bare (t : Table) : Table :=
  { t with aliasName := none }

/-- The join without its kind and the alias of its table. -/
def Join.bare (j : Join) : Join :=
  { j with kind := .plain, table := j.table.bare }

theorem Join.flatMap_bare (js : List Join) :
    (js.map bare).flatMap conditions = js.flatMap conditions := by
  rw [List.flatMap_map]
  rfl

namespace Select

variable {q : Select}

/-- The conditions of joins, rows and groups. -/
def trees (q : Select) : List Condition :=
  q.joins.flatMap Join.conditions ++ q.conditions ++ q.groupConditions

structure IsAdmissible (q : Select) : Prop where
  tables : q.tables ≠ []
  selections : q.selections ≠ []
  trees : ∀ c ∈ q.trees, c.IsSound

/-- The tables, columns and conditions alone: no aliases, order, groups, limits, locks or comment,
and no dialect. -/
def bare (q : Select) : Select where
  selections := q.selections.map fun s => ⟨s.column, none⟩
  tables := q.tables.map Table.bare
  joins := q.joins.map Join.bare
  conditions := q.conditions
  groupConditions := q.groupConditions

theorem checkConditions_ok_iff_isSound :
    q.checkConditions = .ok () ↔ ∀ c ∈ q.trees, c.IsSound := by
  simp only [checkConditions_ok_iff, Join.checkAll_ok_iff_isSound,
    Condition.checkAll_ok_iff_isSound, trees, List.forall_mem_append, and_assoc]

theorem exists_build_iff : (∃ s, q.build = .ok s) ↔ q.IsAdmissible := by
  have hchecks : (∃ s, q.build = .ok s) ↔ q.check = .ok () :=
    Draft.exists_build_iff.trans (and_iff_left rfl)
  rw [hchecks, check_ok_iff, checkConditions_ok_iff_isSound]
  exact ⟨fun ⟨htables, hselections, htrees⟩ => ⟨htables, hselections, htrees⟩,
    fun h => ⟨h.tables, h.selections, h.trees⟩⟩

/-- Nothing but tables, columns and conditions has a part in whether the statement is built. -/
theorem exists_build_congr {q' : Select} (htables : q'.tables = [] ↔ q.tables = [])
    (hselections : q'.selections = [] ↔ q.selections = []) (htrees : q'.trees = q.trees) :
    (∃ s, q'.build = .ok s) ↔ ∃ s, q.build = .ok s := by
  rw [exists_build_iff, exists_build_iff]
  constructor
  · intro h
    exact ⟨mt htables.mpr h.tables, mt hselections.mpr h.selections, htrees ▸ h.trees⟩
  · intro h
    exact ⟨mt htables.mp h.tables, mt hselections.mp h.selections, htrees ▸ h.trees⟩

theorem exists_build_bare : (∃ s, q.bare.build = .ok s) ↔ ∃ s, q.build = .ok s := by
  refine exists_build_congr List.map_eq_nil_iff List.map_eq_nil_iff ?_
  simp only [trees, bare, Join.flatMap_bare]

end Select

namespace Update

variable {q : Update}

/-- The conditions of joins and rows. -/
def trees (q : Update) : List Condition :=
  q.joins.flatMap Join.conditions ++ q.conditions

structure IsAdmissible (q : Update) : Prop where
  tables : q.tables ≠ []
  assignments : q.assignments ≠ []
  items : ∀ a ∈ q.assignments, a.IsSound
  trees : ∀ c ∈ q.trees, c.IsSound
  limit : q.limit = none ∨ q.resolved.offsetFetch = false
  returned : q.returned = [] ∨ q.resolved.returning = true

/-- The statement without aliases, sources, order and comment. -/
def bare (q : Update) : Update :=
  { q with
    tables := q.tables.map Table.bare
    joins := q.joins.map Join.bare
    sources := []
    ordering := []
    comment := none }

theorem exists_build_iff : (∃ s, q.build = .ok s) ↔ q.IsAdmissible := by
  have hchecks : (∃ s, q.build = .ok s) ↔
      q.checkAll = .ok () ∧ checkReturning q.resolved q.returned = .ok () :=
    Draft.exists_build_iff
  rw [hchecks, checkAll_ok_iff, checkLimit_ok_iff, checkReturning_ok_iff,
    Join.checkAll_ok_iff_isSound, Condition.checkAll_ok_iff_isSound]
  simp only [Assignment.check_ok_iff_isSound]
  constructor
  · rintro ⟨⟨⟨htables, hassignments, hitems, hjoins, hconditions⟩, hlimit⟩, hreturned⟩
    exact ⟨htables, hassignments, hitems, List.forall_mem_append.mpr ⟨hjoins, hconditions⟩, hlimit,
      hreturned⟩
  · intro h
    obtain ⟨hjoins, hconditions⟩ := List.forall_mem_append.mp h.trees
    exact ⟨⟨⟨h.tables, h.assignments, h.items, hjoins, hconditions⟩, h.limit⟩, h.returned⟩

theorem exists_build_congr {q' : Update} (htables : q'.tables = [] ↔ q.tables = [])
    (hassignments : q'.assignments = q.assignments) (htrees : q'.trees = q.trees)
    (hdialect : q'.resolved = q.resolved) (hlimit : q'.limit = q.limit)
    (hreturned : q'.returned = q.returned) :
    (∃ s, q'.build = .ok s) ↔ ∃ s, q.build = .ok s := by
  rw [exists_build_iff, exists_build_iff]
  constructor
  · intro h
    exact ⟨mt htables.mpr h.tables, hassignments ▸ h.assignments, hassignments ▸ h.items,
      htrees ▸ h.trees, hdialect ▸ hlimit ▸ h.limit, hdialect ▸ hreturned ▸ h.returned⟩
  · intro h
    exact ⟨mt htables.mp h.tables, hassignments ▸ h.assignments, hassignments ▸ h.items,
      htrees ▸ h.trees, hdialect ▸ hlimit ▸ h.limit, hdialect ▸ hreturned ▸ h.returned⟩

theorem exists_build_bare : (∃ s, q.bare.build = .ok s) ↔ ∃ s, q.build = .ok s := by
  refine exists_build_congr List.map_eq_nil_iff rfl ?_ rfl rfl rfl
  simp only [trees, bare, Join.flatMap_bare]

end Update

namespace Delete

variable {q : Delete}

/-- The conditions of joins and rows. -/
def trees (q : Delete) : List Condition :=
  q.joins.flatMap Join.conditions ++ q.conditions

structure IsAdmissible (q : Delete) : Prop where
  tables : q.tables ≠ []
  trees : ∀ c ∈ q.trees, c.IsSound
  limit : q.limit = none ∨ q.resolved.offsetFetch = false
  returned : q.returned = [] ∨ q.resolved.returning = true

/-- The statement without targets, aliases, order and comment. -/
def bare (q : Delete) : Delete :=
  { q with
    targets := []
    tables := q.tables.map Table.bare
    joins := q.joins.map Join.bare
    ordering := []
    comment := none }

theorem exists_build_iff : (∃ s, q.build = .ok s) ↔ q.IsAdmissible := by
  have hchecks : (∃ s, q.build = .ok s) ↔
      q.checkAll = .ok () ∧ checkReturning q.resolved q.returned = .ok () :=
    Draft.exists_build_iff
  rw [hchecks, checkAll_ok_iff, checkLimit_ok_iff, checkReturning_ok_iff,
    Join.checkAll_ok_iff_isSound, Condition.checkAll_ok_iff_isSound]
  constructor
  · rintro ⟨⟨⟨htables, hjoins, hconditions⟩, hlimit⟩, hreturned⟩
    exact ⟨htables, List.forall_mem_append.mpr ⟨hjoins, hconditions⟩, hlimit, hreturned⟩
  · intro h
    obtain ⟨hjoins, hconditions⟩ := List.forall_mem_append.mp h.trees
    exact ⟨⟨⟨h.tables, hjoins, hconditions⟩, h.limit⟩, h.returned⟩

theorem exists_build_congr {q' : Delete} (htables : q'.tables = [] ↔ q.tables = [])
    (htrees : q'.trees = q.trees) (hdialect : q'.resolved = q.resolved)
    (hlimit : q'.limit = q.limit) (hreturned : q'.returned = q.returned) :
    (∃ s, q'.build = .ok s) ↔ ∃ s, q.build = .ok s := by
  rw [exists_build_iff, exists_build_iff]
  constructor
  · intro h
    exact ⟨mt htables.mpr h.tables, htrees ▸ h.trees, hdialect ▸ hlimit ▸ h.limit,
      hdialect ▸ hreturned ▸ h.returned⟩
  · intro h
    exact ⟨mt htables.mp h.tables, htrees ▸ h.trees, hdialect ▸ hlimit ▸ h.limit,
      hdialect ▸ hreturned ▸ h.returned⟩

theorem exists_build_bare : (∃ s, q.bare.build = .ok s) ↔ ∃ s, q.build = .ok s := by
  refine exists_build_congr List.map_eq_nil_iff ?_ rfl rfl rfl
  simp only [trees, bare, Join.flatMap_bare]

end Delete

/-- A statement is built exactly if it is admissible, and no alias, order, group, page, lock, comment
or other setting has a part in that. What is not built fails with a cause of its own kind. -/
theorem statements_are_built_iff :
    (∀ q : Select, ((∃ s, q.build = .ok s) ↔ q.IsAdmissible) ∧
      ((∃ s, q.bare.build = .ok s) ↔ ∃ s, q.build = .ok s)) ∧
    (∀ q : Update, ((∃ s, q.build = .ok s) ↔ q.IsAdmissible) ∧
      ((∃ s, q.bare.build = .ok s) ↔ ∃ s, q.build = .ok s)) ∧
    (∀ q : Delete, ((∃ s, q.build = .ok s) ↔ q.IsAdmissible) ∧
      ((∃ s, q.bare.build = .ok s) ↔ ∃ s, q.build = .ok s)) ∧
    ∀ (a : Assembler) (e : Error), a.build = .error e → ∃ cause, e = .build cause := by
  refine ⟨fun q => ⟨Select.exists_build_iff, Select.exists_build_bare⟩,
    fun q => ⟨Update.exists_build_iff, Update.exists_build_bare⟩,
    fun q => ⟨Delete.exists_build_iff, Delete.exists_build_bare⟩, ?_⟩
  intro a e h
  exact Draft.cause_of_build h

/-- A template that no mark stands in is refused although its groups write nothing; a change of rows
is built for a dialect that returns them, with an alias or without. -/
theorem statements_are_built_iff_buried :
    let buried := Condition.group .or [.negation (.group .and [.template "" [.int 1]])]
    let q : Select := { tables := [⟨"t", none⟩], selections := [⟨.named "a", none⟩] }
    let change : Update :=
      { dialect := some .postgres, tables := [⟨"t", some "u"⟩], limit := some 1,
        assignments := [.template (.named "a") "?" [.int 1]], returned := [.named "a"] }
    buried.fragment.isVoid ∧ (¬∃ s, (q.filterGroups buried).build = .ok s) ∧
      (∃ s, q.bare.build = .ok s) ∧ ∃ s, change.bare.build = .ok s := by
  intro buried q change
  obtain ⟨hselect, hupdate, -, -⟩ := statements_are_built_iff
  refine ⟨rfl, fun h => ?_, ?_, ?_⟩
  · have hsound := ((hselect _).1.mp h).trees buried (by simp [q, Select.trees, Select.filterGroups])
    have hcount := hsound.templates "" [.int 1] List.mem_cons_self
    contradiction
  · refine (hselect q).2.mpr ((hselect q).1.mpr ?_)
    exact ⟨by simp [q], by simp [q], by simp [q, Select.trees]⟩
  · refine (hupdate change).2.mpr ((hupdate change).1.mpr ?_)
    refine ⟨by simp [change], by simp [change], ?_, by simp [change, Update.trees], .inr rfl,
      .inr rfl⟩
    intro a ha
    rw [List.mem_singleton.mp ha]
    refine ⟨by decide, ?_⟩
    rintro _ _ _ ⟨⟩
    decide

/-! ### Blank names of tables -/

namespace Assembler

def isInsert : Assembler → Bool
  | insert _ => true
  | _ => false

/-- Some table that is changed, or that rows are taken from, has a blank name. -/
def HasBlankTable : Assembler → Prop
  | select q => ∃ t ∈ q.tables, Text.allBlank t.name
  | insert q => ∃ t ∈ q.target, Text.allBlank t.name
  | update q => ∃ t ∈ q.tables ++ q.sources, Text.allBlank t.name
  | delete q => (∃ t ∈ q.tables, Text.allBlank t.name) ∨ ∃ column ∈ q.targets, column.isBlank

/-- A statement with a blank name is not built, for a cause of its own kind. -/
def RefusesBlankTables (a : Assembler) : Prop :=
  a.HasBlankTable → ∃ cause, a.build = .error (.build cause)

/-- The statement on other tables. -/
def onTables (f : Table → Table) (g : Column → Column) : Assembler → Assembler
  | select q => select { q with tables := q.tables.map f }
  | insert q => insert { q with target := q.target.map f }
  | update q => update { q with tables := q.tables.map f, sources := q.sources.map f }
  | delete q => delete { q with tables := q.tables.map f, targets := q.targets.map g }

variable {a : Assembler}

/-- No name of a table has a part in whether a statement other than INSERT is built. -/
theorem exists_build_onTables (f : Table → Table) (g : Column → Column)
    (ha : a.isInsert = false) : (∃ s, (a.onTables f g).build = .ok s) ↔ ∃ s, a.build = .ok s := by
  cases a with
  | insert q => contradiction
  | select q => exact Select.exists_build_congr List.map_eq_nil_iff Iff.rfl rfl
  | update q => exact Update.exists_build_congr List.map_eq_nil_iff rfl rfl rfl rfl rfl
  | delete q => exact Delete.exists_build_congr List.map_eq_nil_iff rfl rfl rfl rfl

theorem refusesBlankTables_iff :
    a.RefusesBlankTables ↔ ¬(a.HasBlankTable ∧ ∃ s, a.build = .ok s) := by
  constructor
  · rintro h ⟨hblank, s, hs⟩
    obtain ⟨cause, hcause⟩ := h hblank
    rw [hs] at hcause
    contradiction
  · intro h hblank
    cases hbuild : a.build with
    | ok s => exact absurd ⟨hblank, s, hbuild⟩ h
    | error e =>
      obtain ⟨cause, rfl⟩ := Draft.cause_of_build hbuild
      exact ⟨cause, rfl⟩

theorem refusesBlankTables_insert (q : Insert) : (insert q).RefusesBlankTables := by
  rw [refusesBlankTables_iff]
  rintro ⟨⟨t, ht, hblank⟩, s, hs⟩
  have hcheck : q.check = .ok () := (Draft.build_ok_iff.mp hs).1
  obtain ⟨t', ht', hname⟩ := (Insert.check_ok_iff.mp hcheck).1
  obtain rfl : t = t' := Option.mem_unique ht ht'
  rw [hblank] at hname
  contradiction

/-- INSERT statements refuse blank names of tables. Any other statement, on whatever tables, refuses
them only if no name is blank, or if it is not built on its own tables either. -/
theorem blank_tables_are_refused_iff (a : Assembler) (f : Table → Table) (g : Column → Column) :
    (a.onTables f g).RefusesBlankTables ↔
      a.isInsert ∨ ¬((a.onTables f g).HasBlankTable ∧ ∃ s, a.build = .ok s) := by
  cases ha : a.isInsert with
  | true =>
    cases a with
    | insert q => exact iff_of_true (refusesBlankTables_insert _) (.inl rfl)
    | select | update | delete => contradiction
  | false =>
    rw [refusesBlankTables_iff, exists_build_onTables f g ha]
    simp

/-- A deletion, a change and a selection with a table that has no name are built. -/
theorem blank_tables_are_built :
    let deletion := ({} : Delete).table (.parse "")
    let change := (({} : Update).table (.parse "")).assign (.value (.named "a") (.int 1))
    let selection := (({} : Select).table (.parse "")).columns [.named "a"]
    deletion.build = .ok ⟨"DELETE FROM ", [], .generic⟩ ∧
      change.build = .ok ⟨"UPDATE  SET a=?", [.int 1], .generic⟩ ∧
      selection.build = .ok ⟨"SELECT a FROM ", [], .generic⟩ ∧
      ∀ a ∈ [delete deletion, update change, select selection],
        a.HasBlankTable ∧ ¬a.RefusesBlankTables := by
  intro deletion change selection
  have hdeletion : deletion.build = .ok ⟨"DELETE FROM ", [], .generic⟩ := rfl
  have hchange : change.build = .ok ⟨"UPDATE  SET a=?", [.int 1], .generic⟩ := rfl
  have hselection : selection.build = .ok ⟨"SELECT a FROM ", [], .generic⟩ := rfl
  have hblank : ∃ t ∈ [Table.parse ""], Text.allBlank t.name := ⟨_, List.mem_singleton_self _, rfl⟩
  refine ⟨hdeletion, hchange, hselection, ?_⟩
  simp only [List.forall_mem_cons, refusesBlankTables_iff, not_not]
  exact ⟨⟨.inl hblank, .inl hblank, _, hdeletion⟩, ⟨hblank, hblank, _, hchange⟩,
    ⟨hblank, hblank, _, hselection⟩, List.forall_mem_nil _⟩

end Assembler

end QueryKit
