import QueryKit.Proofs.Data.Condition
import QueryKit.Proofs.Operand.Statement

/-! Statements without their data. Two statements in the making that differ in nothing but their data
are refused with the same error, or they are built with the same text, and each binds its own data
in the places where the other one binds its own. -/

namespace QueryKit

open Fragment

/-! ### Taking the data away -/

def Join.withoutData (j : Join) : Join :=
  { j with conditions := Condition.allWithoutData j.conditions }

def Assignment.withoutData : Assignment → Assignment
  | value column _ => value column .null
  | verbatim column expression => verbatim column expression
  | template column expression values => template column expression (values.map fun _ => .null)

def Select.withoutData (q : Select) : Select :=
  { q with
    joins := q.joins.map Join.withoutData
    conditions := Condition.allWithoutData q.conditions
    groupConditions := Condition.allWithoutData q.groupConditions
    paging := q.paging.map Fragment.withoutData }

def Insert.withoutData (q : Insert) : Insert :=
  { q with rows := q.rows.map fun row => row.map fun _ => .null }

def Update.withoutData (q : Update) : Update :=
  { q with
    joins := q.joins.map Join.withoutData
    assignments := q.assignments.map Assignment.withoutData
    conditions := Condition.allWithoutData q.conditions }

def Delete.withoutData (q : Delete) : Delete :=
  { q with
    joins := q.joins.map Join.withoutData
    conditions := Condition.allWithoutData q.conditions }

/-- The statement in the making with nothing in particular bound, and all else as it is. -/
def Assembler.withoutData : Assembler → Assembler
  | select q => select q.withoutData
  | insert q => insert q.withoutData
  | update q => update q.withoutData
  | delete q => delete q.withoutData

/-- The draft with nothing in particular bound. -/
def Draft.withoutData (d : Draft) : Draft :=
  { d with body := d.body.withoutData, tail := d.tail.withoutData }

theorem Condition.allWithoutData_eq_map (cs : List Condition) :
    allWithoutData cs = cs.map withoutData := by
  induction cs with
  | nil => rfl
  | cons c cs ih => rw [allWithoutData, ih, List.map_cons]

/-! ### Clauses -/

theorem withoutData_of_lays {f : Fragment} (h : Lays .generic f []) : f.withoutData = f :=
  withoutData_of_operands_nil h.values

theorem Join.fragment_withoutData (j : Join) : j.withoutData.fragment = j.fragment.withoutData := by
  simp only [Join.fragment, Join.withoutData, List.cons_append, withoutData_text_cons,
    withoutData_append, withoutData_clause, Condition.fragmentAll_withoutData,
    withoutData_of_lays (lays_table j.table)]

theorem joins_withoutData (joins : List Join) :
    (joins.map Join.withoutData).flatMap Join.fragment =
      Fragment.withoutData (joins.flatMap Join.fragment) := by
  simp only [List.flatMap_map, Join.fragment_withoutData, Fragment.withoutData, List.map_flatMap]

theorem Join.checkAll_withoutData (joins : List Join) :
    checkAll (joins.map withoutData) = checkAll joins := by
  have hcheck : ∀ j : Join, j.withoutData.check = j.check :=
    fun j => Condition.checkAll_withoutData j.conditions
  simp only [checkAll, List.forM_eq_forM, List.forM_map, hcheck]

theorem Assignment.fragment_withoutData (a : Assignment) :
    a.withoutData.fragment = a.fragment.withoutData := by
  cases a with
  | value column v => exact Condition.fragment_withoutData (.equals column v)
  | verbatim column expression =>
    simp [fragment, withoutData, Condition.withoutData_column]
  | template column expression values =>
    have htemplate := Condition.fragment_withoutData (.template expression values)
    simp only [Condition.withoutData] at htemplate
    simp only [fragment, withoutData, withoutData_append, withoutData_text_cons,
      Condition.withoutData_column, htemplate]

theorem Assignment.check_withoutData (a : Assignment) : a.withoutData.check = a.check := by
  cases a with
  | value | verbatim => rfl
  | template column expression values =>
    simp only [withoutData, check, Condition.checkTemplate_withoutData]

theorem assignments_withoutData (assignments : List Assignment) :
    separated ", " ((assignments.map Assignment.withoutData).map Assignment.fragment) =
      (separated ", " (assignments.map Assignment.fragment)).withoutData := by
  rw [withoutData_separated, List.map_map, List.map_map]
  congr 1
  exact List.map_congr_left fun a _ => a.fragment_withoutData

theorem withoutData_ite_text {p : Prop} [Decidable p] (s : String) :
    withoutData (if p then [.text s] else []) = if p then [.text s] else [] := by
  split <;> rfl

/-! ### Drafts -/

namespace Select

theorem checkConditions_withoutData (q : Select) :
    q.withoutData.checkConditions = q.checkConditions := by
  simp only [checkConditions, withoutData, Join.checkAll_withoutData,
    Condition.checkAll_withoutData]

theorem source_withoutData (q : Select) :
    q.withoutData.sourceFragment = q.sourceFragment.withoutData := by
  have hgrouping : Lays .generic (if q.grouping.isEmpty then []
      else .text " GROUP BY " :: Column.listFragment q.grouping) [] :=
    lays_ite lays_nil ((lays_columns q.grouping).behind_text _)
  simp only [sourceFragment, withoutData_append, List.cons_append, withoutData_text_cons,
    withoutData_of_lays (lays_tables q.tables), withoutData_of_lays hgrouping, withoutData_clause]
  simp only [withoutData, joins_withoutData, Condition.fragmentAll_withoutData]
  rfl

theorem tail_withoutData (q : Select) :
    q.withoutData.tailFragment = q.tailFragment.withoutData := by
  have hpaging : q.withoutData.paging.getD [.window q.limit q.offset] =
      (q.paging.getD [.window q.limit q.offset]).withoutData := by
    simp only [withoutData]
    cases q.paging <;> rfl
  simp only [tailFragment, withoutData_append, withoutData_ite_text,
    withoutData_of_lays (lays_ordering q), withoutData_of_lays (lays_comment q.comment)]
  rw [← hpaging]
  rfl

theorem draft_withoutData (q : Select) : q.withoutData.draft = q.draft.withoutData := by
  have hcheck : q.withoutData.check = q.check := by
    simp only [check, checkConditions_withoutData]
    rfl
  have hselection := withoutData_of_lays (lays_selection (d := .generic) q)
  simp only [draft, Draft.withoutData, hcheck, source_withoutData, tail_withoutData,
    withoutData_append, List.cons_append, withoutData_text_cons, hselection]
  rfl

theorem countDraft_withoutData (q : Select) :
    q.withoutData.countDraft = q.countDraft.withoutData := by
  have hcheck : q.withoutData.checkCount = q.checkCount := by
    simp only [checkCount, checkConditions_withoutData]
    rfl
  have haround : q.withoutData.countsAround = q.countsAround := by
    simp only [countsAround, withoutData, Condition.allWithoutData_eq_map, List.isEmpty_map]
  have hselection : Lays .generic (if q.isDistinct && !q.selections.isEmpty then q.selectionFragment
      else [.text "1"]) [] := lays_ite (lays_selection q) (lays_text _)
  simp only [countDraft, Draft.withoutData, hcheck, haround, source_withoutData,
    withoutData_append, withoutData_of_lays (lays_comment q.comment)]
  by_cases h : q.countsAround
  · simp only [h, if_true, List.cons_append, withoutData_text_cons, withoutData_append,
      withoutData_of_lays hselection]
    rfl
  · simp only [h, Bool.false_eq_true, if_false, withoutData_text_cons]
    rfl

end Select

namespace Insert

theorem checkRows_withoutData (arity number : Nat) (rows : List (List Value)) :
    checkRows arity number (rows.map fun row => row.map fun _ => .null) =
      checkRows arity number rows := by
  induction rows generalizing number with
  | nil => rfl
  | cons row rows ih => simp only [List.map_cons, checkRows, List.length_map, ih]

theorem arity_withoutData (q : Insert) : q.withoutData.arity = q.arity := by
  simp [arity, withoutData, List.head?_map, Option.map_map, Function.comp_def]

theorem tuple_withoutData (row : List Value) :
    tuple ((row.map fun _ => .null).map fun v => [.operand v]) =
      Fragment.withoutData (tuple (row.map fun v => [.operand v])) := by
  simp only [tuple, List.cons_append, withoutData_text_cons, withoutData_append,
    withoutData_separated, List.map_map]
  rfl

theorem rows_withoutData (q : Insert) :
    q.withoutData.rowsFragment = q.rowsFragment.withoutData := by
  by_cases h : q.rows = []
  · rw [withoutData_of_lays (lays_template h), rowsFragment, rowsFragment, arity_withoutData]
    simp only [withoutData, h, List.map_nil]
  · have hrows : q.rows.isEmpty = false := by simpa using h
    simp only [rowsFragment, withoutData, List.isEmpty_map, hrows, Bool.false_eq_true, if_false,
      withoutData_separated, List.map_map]
    congr 1
    exact List.map_congr_left fun row _ => tuple_withoutData row

theorem draft_withoutData (q : Insert) : q.withoutData.draft = q.draft.withoutData := by
  have hcheck : q.withoutData.check = q.check := by
    have hrows : ∀ n, checkRows n 1 q.withoutData.rows = checkRows n 1 q.rows :=
      fun n => checkRows_withoutData n 1 q.rows
    simp only [check, arity_withoutData, hrows]
    rfl
  have hhead := withoutData_of_lays (lays_head (d := .generic) q)
  have hbody : ∀ q : Insert, q.body = q.headFragment ++ q.rowsFragment := fun q => by
    simp [body, headFragment]
  have htail : Fragment.withoutData q.draft.tail = q.draft.tail :=
    withoutData_of_lays (lays_returned q)
  simp only [Draft.withoutData, htail]
  simp only [draft, hcheck, hbody, withoutData_append, hhead, rows_withoutData]
  rfl

end Insert

theorem Update.draft_withoutData (q : Update) : q.withoutData.draft = q.draft.withoutData := by
  have hcheck : q.withoutData.checkAll = q.checkAll := by
    have hassignments : q.withoutData.assignments.forM Assignment.check =
        q.assignments.forM Assignment.check := by
      simp only [withoutData, List.forM_eq_forM, List.forM_map, Assignment.check_withoutData]
    simp only [checkAll, check, hassignments]
    simp only [withoutData, Join.checkAll_withoutData, Condition.checkAll_withoutData,
      List.isEmpty_map]
    rfl
  have hsources : Lays .generic (if q.sources.isEmpty then [] else .text " FROM " :: q.sources.fragment)
      [] := lays_ite lays_nil ((lays_tables q.sources).behind_text _)
  have htail : Fragment.withoutData q.draft.tail = q.draft.tail :=
    withoutData_of_lays ((lays_returning q.returned).append (lays_comment q.comment))
  simp only [Draft.withoutData, htail]
  simp only [draft, hcheck, body, List.cons_append, withoutData_text_cons, withoutData_append,
    withoutData_of_lays (lays_tables q.tables), withoutData_of_lays hsources, withoutData_clause,
    withoutData_of_lays (lays_order q.ordering)]
  simp only [withoutData, joins_withoutData, assignments_withoutData,
    Condition.fragmentAll_withoutData]
  rfl

theorem Delete.draft_withoutData (q : Delete) : q.withoutData.draft = q.draft.withoutData := by
  have hcheck : q.withoutData.checkAll = q.checkAll := by
    simp only [checkAll, check, withoutData, Join.checkAll_withoutData,
      Condition.checkAll_withoutData]
    rfl
  have htargets : Lays .generic (if q.targets.isEmpty then []
      else Column.listFragment q.targets ++ [.text " "]) [] :=
    lays_ite lays_nil ((lays_columns q.targets).before_text " ")
  have htail : Fragment.withoutData q.draft.tail = q.draft.tail :=
    withoutData_of_lays ((lays_returning q.returned).append (lays_comment q.comment))
  simp only [Draft.withoutData, htail]
  simp only [draft, hcheck, body, List.cons_append, withoutData_text_cons, withoutData_append,
    withoutData_of_lays htargets, withoutData_of_lays (lays_tables q.tables), withoutData_clause,
    withoutData_of_lays (lays_order q.ordering)]
  simp only [withoutData, joins_withoutData, Condition.fragmentAll_withoutData]
  rfl

theorem Assembler.draft_withoutData (a : Assembler) : a.withoutData.draft = a.draft.withoutData := by
  cases a with
  | select q => exact q.draft_withoutData
  | insert q => exact q.draft_withoutData
  | update q => exact q.draft_withoutData
  | delete q => exact q.draft_withoutData

/-! ### Data in reading order -/

/-- The data of the joins, the conditions on rows and the conditions on groups. -/
def Select.sourceData (q : Select) : List Value :=
  q.joins.flatMap (fun j => Condition.allData j.conditions) ++ Condition.allData q.conditions ++
    Condition.allData q.groupConditions

def Assignment.data : Assignment → List Value
  | value _ v => [v]
  | verbatim _ _ => []
  | template _ _ values => values

/-- The data of a statement in reading order. A page has two numbers, in the order of the dialect. -/
def Assembler.data : Assembler → List Value
  | select q => q.sourceData ++ operands q.resolved (q.paging.getD [])
  | insert q => q.rows.flatten
  | update q =>
    q.joins.flatMap (fun j => Condition.allData j.conditions) ++
      q.assignments.flatMap Assignment.data ++ Condition.allData q.conditions
  | delete q =>
    q.joins.flatMap (fun j => Condition.allData j.conditions) ++ Condition.allData q.conditions

section Data

variable {d : Dialect}

theorem Join.map_value_sites {joins : List Join} (h : Join.checkAll joins = .ok ()) :
    (Join.sites d joins).map Site.value = joins.flatMap fun j => Condition.allData j.conditions := by
  rw [Join.sites, List.map_flatMap]
  exact List.flatMap_congr fun j hj => Condition.map_value_allSites _ (checkAll_ok_iff.mp h j hj)

theorem Assignment.map_value_sites {a : Assignment} (h : a.check = .ok ()) :
    (a.sites d).map Site.value = a.data := by
  cases a with
  | value | verbatim => rfl
  | template column expression values =>
    obtain ⟨-, -, hcount⟩ := Check.bind_ok_iff.mp h
    exact Site.map_value_ofTemplate (Condition.length_pieces_of_checkTemplate hcount)

theorem Select.map_value_sourceSites {q : Select} (h : q.checkConditions = .ok ()) :
    (q.sourceSites d).map Site.value = q.sourceData := by
  obtain ⟨hjoins, hrows, hgroups⟩ := checkConditions_ok_iff.mp h
  simp only [sourceSites, List.map_append, Join.map_value_sites hjoins,
    Condition.map_value_allSites _ hrows, Condition.map_value_allSites _ hgroups, sourceData]

theorem Select.operands_draft {q : Select} (h : q.checkConditions = .ok ()) :
    operands d q.draft.fragment = q.sourceData ++ operands d (q.paging.getD []) := by
  have hlocks : Lays d (if q.locks then [.text " FOR UPDATE"] else []) [] :=
    lays_ite (lays_text _) lays_nil
  have hpaging : operands d (q.paging.getD [.window q.limit q.offset]) =
      operands d (q.paging.getD []) := by
    cases q.paging <;> rfl
  simp only [draft, Draft.fragment, tailFragment, List.cons_append, operands_text_cons,
    operands_append, (lays_selection q).values, (lays_source h).values, (lays_ordering q).values,
    hpaging, hlocks.values, (lays_comment q.comment).values, map_value_sourceSites h]
  simp

theorem Select.operands_countDraft {q : Select} (h : q.checkCount = .ok ()) :
    operands d q.countDraft.fragment = q.sourceData := by
  have hconditions := (checkCount_ok_iff.mp h).2
  exact (lays_count hconditions).values.trans (map_value_sourceSites hconditions)

theorem Insert.operands_draft (q : Insert) : operands d q.draft.fragment = q.rows.flatten := by
  by_cases h : q.rows = []
  · have hAll := ((lays_head (d := d) q).append (lays_template h)).append (lays_returned q)
    rw [draft_fragment_eq, hAll.values, h]
    rfl
  · rw [(lays_draft h).values, sites, List.map_flatMap, List.flatMap_def]
    simp [Site.map_value_ofList]

theorem Update.map_value_sites {q : Update} (h : q.checkAll = .ok ()) :
    (q.sites d).map Site.value = (Assembler.update q).data := by
  obtain ⟨⟨-, -, hassignments, hjoins, hrows⟩, -⟩ := checkAll_ok_iff.mp h
  have hset : (q.assignments.flatMap (Assignment.sites d)).map Site.value =
      q.assignments.flatMap Assignment.data := by
    rw [List.map_flatMap]
    exact List.flatMap_congr fun a ha => Assignment.map_value_sites (hassignments a ha)
  simp only [sites, List.map_append, Join.map_value_sites hjoins, hset,
    Condition.map_value_allSites _ hrows, Assembler.data]

theorem Delete.map_value_sites {q : Delete} (h : q.checkAll = .ok ()) :
    (q.sites d).map Site.value = (Assembler.delete q).data := by
  obtain ⟨⟨-, hjoins, hrows⟩, -⟩ := checkAll_ok_iff.mp h
  simp only [sites, List.map_append, Join.map_value_sites hjoins,
    Condition.map_value_allSites _ hrows, Assembler.data]

theorem Assembler.operands_draft {a : Assembler} (h : a.draft.admission = .ok ()) :
    operands a.draft.dialect a.draft.fragment = a.data := by
  cases a with
  | select q => exact Select.operands_draft (Select.check_ok_iff.mp h).2.2
  | insert q => exact q.operands_draft
  | update q => exact (Update.lays_draft h).values.trans (Update.map_value_sites h)
  | delete q => exact (Delete.lays_draft h).values.trans (Delete.map_value_sites h)

end Data

/-! ### Two runs -/

/-- Two runs come to the same: the same error, or statements with one text and one dialect, of which
each binds its own data, and the one as many as the other. -/
inductive SameButData (data data' : List Value) :
    Except Error Statement → Except Error Statement → Prop
  | error (e : Error) : SameButData data data' (.error e) (.error e)
  | ok (text : String) (dialect : Dialect) (length_eq : data.length = data'.length) :
      SameButData data data' (.ok ⟨text, data, dialect⟩) (.ok ⟨text, data', dialect⟩)

theorem Draft.sameButData {p q : Draft} {data data' : List Value}
    (hsame : p.withoutData = q.withoutData)
    (hp : p.admission = .ok () → operands p.dialect p.fragment = data)
    (hq : q.admission = .ok () → operands q.dialect q.fragment = data') :
    SameButData data data' p.build q.build := by
  simp only [withoutData, mk.injEq] at hsame
  obtain ⟨hdialect, hadmission, hbody, hcompletion, htail⟩ := hsame
  have hfragment : p.fragment.withoutData = q.fragment.withoutData := by
    rw [fragment, fragment, withoutData_append, withoutData_append, hbody, htail]
  -- The checks are the same, so that either both drafts fail in the same one or both are written.
  unfold build
  rw [← hadmission, ← hcompletion]
  cases hpass : p.admission with
  | error e => exact .error _
  | ok =>
    cases p.completion with
    | error e => exact .error _
    | ok =>
      have htext : p.fragment.render p.dialect 0 = q.fragment.render q.dialect 0 := by
        rw [← render_withoutData, hfragment, render_withoutData, hdialect]
      have hdata := hp hpass
      have hdata' := hq (hadmission ▸ hpass)
      have hlength : data.length = data'.length := by
        rw [← hdata, ← hdata', ← length_operands_withoutData, hfragment,
          length_operands_withoutData, hdialect]
      show SameButData data data'
        (.ok ⟨p.fragment.render p.dialect 0, operands p.dialect p.fragment, p.dialect⟩)
        (.ok ⟨q.fragment.render q.dialect 0, operands q.dialect q.fragment, q.dialect⟩)
      rw [hdata, hdata', ← htext, ← hdialect]
      exact .ok _ _ hlength

/-- Statements in the making that differ in nothing but their data come to the same, and so do the
statements that count the rows of such ones. -/
theorem texts_do_not_depend_on_data :
    (∀ a b : Assembler, a.withoutData = b.withoutData →
      SameButData a.data b.data a.build b.build) ∧
    ∀ p q : Select, p.withoutData = q.withoutData →
      SameButData p.sourceData q.sourceData p.count q.count := by
  refine ⟨fun a b h => ?_, fun p q h => ?_⟩
  · refine Draft.sameButData ?_ Assembler.operands_draft Assembler.operands_draft
    rw [← Assembler.draft_withoutData, h, Assembler.draft_withoutData]
  · refine Draft.sameButData ?_ Select.operands_countDraft Select.operands_countDraft
    rw [← Select.countDraft_withoutData, h, Select.countDraft_withoutData]

/-- An empty text, a missing value and the first page against a number, a hostile text and a later
page, in conditions made by the same calls. -/
theorem texts_do_not_depend_on_data_paged :
    let make (v w : Value) (number : UInt64) : Select :=
      ((({} : Select).columns [.named "id"]).table ⟨"users", none⟩
        |>.filter (.group .or [.equals (.named "a") v, .negation (.member (.named "b") [w] false)])
        |>.page number 10)
    let p := make (.text "") .null 1
    let q := make (.int 7) (.text "') OR 1=1 --") 3
    let text := "SELECT id FROM users WHERE (a=? OR NOT (b IN (?))) LIMIT ? OFFSET ?"
    p.withoutData = q.withoutData ∧
      p.build = .ok ⟨text, [.text "", .null, .int 10, .int 0], .generic⟩ ∧
      SameButData [.text "", .null, .int 10, .int 0]
        [.int 7, .text "') OR 1=1 --", .int 10, .int 20] p.build q.build ∧
      SameButData [.text "", .null] [.int 7, .text "') OR 1=1 --"] p.count q.count := by
  intro make p q text
  have hsame : p.withoutData = q.withoutData := rfl
  have hbuild : p.build = .ok ⟨text, [.text "", .null, .int 10, .int 0], .generic⟩ := rfl
  exact ⟨hsame, hbuild,
    texts_do_not_depend_on_data.1 (.select p) (.select q) (congrArg Assembler.select hsame),
    texts_do_not_depend_on_data.2 p q hsame⟩

end QueryKit
