import Mathlib.Data.List.Induction
import QueryKit.Proofs.Admission
import QueryKit.Proofs.Count
import QueryKit.Proofs.Data.Statement

/-! INSERT statements made call by call. Rows are given whole or value by value, and columns along
with values or apart from them. However the calls are mixed, a statement that is built has one
placeholder for every cell, and the value that it stands for is that of its row and column. -/

namespace QueryKit

open Check Fragment

namespace Insert

/-- A call that adds to a statement in the making. -/
inductive Call
  | settings (s : Settings)
  | dialect (d : Dialect)
  | into (t : Table)
  | ignore
  | replace
  | columns (cs : List Column)
  | values (row : List Value)
  /-- A value with the name of its column. Without the value the call does nothing. -/
  | set (name : String) (v : Option Value)
  | returning (cs : List Column)
  | comment (text : String)

def apply (q : Insert) : Call → Insert
  | .settings s => q.withSettings s
  | .dialect d => q.withDialect d
  | .into t => q.into t
  | .ignore => q.ignore
  | .replace => q.replace
  | .columns cs => q.columns cs
  | .values row => q.values row
  | .set name (some v) => q.assign (.parse name) v
  | .set _ none => q
  | .returning cs => q.returning cs
  | .comment text => q.withComment text

def run (calls : List Call) : Insert :=
  calls.foldl apply {}

/-! ### What the calls give -/

namespace Call

def table? : Call → Option Table
  | into t => some t
  | _ => none

def row? : Call → Option (List Value)
  | values row => some row
  | _ => none

def pair? : Call → Option (Column × Value)
  | set name (some v) => some (.parse name, v)
  | _ => none

def targets : Call → List Column
  | columns cs => cs
  | set name (some _) => [.parse name]
  | _ => []

def returned : Call → List Column
  | returning cs => cs
  | _ => []

/-- A whole row comes last, and a value with its column comes last in the first row. -/
def extend (c : Call) (rows : List (List Value)) : List (List Value) :=
  match c.row?, c.pair? with
  | some row, _ => rows ++ [row]
  | none, some pair => extendFirst pair.2 rows
  | none, none => rows

end Call

variable (calls : List Call)

def lastTable? : Option Table :=
  (calls.filterMap Call.table?).getLast?

def wholeRows : List (List Value) :=
  calls.filterMap Call.row?

def pairs : List (Column × Value) :=
  calls.filterMap Call.pair?

def allTargets : List Column :=
  calls.flatMap Call.targets

def allReturned : List Column :=
  calls.flatMap Call.returned

/-- All rows, given whole or value by value. -/
def given : List (List Value) :=
  if pairs calls = [] then wholeRows calls else [(pairs calls).map Prod.snd]

/-- The number of columns, or without columns the number of values in the first row. -/
def width : Nat :=
  if allTargets calls = [] then ((given calls).head?.map List.length).getD 0
  else (allTargets calls).length

/-- The statement in the making holds what the calls give. Once the two ways to give rows are mixed,
nothing is said of its rows. -/
structure Holds (q : Insert) (calls : List Call) : Prop where
  target : q.target = lastTable? calls
  targetColumns : q.targetColumns = allTargets calls
  byColumn : q.byColumn = !(pairs calls).isEmpty
  byRow : q.byRow = !(wholeRows calls).isEmpty
  rows : pairs calls = [] ∨ wholeRows calls = [] → q.rows = given calls
  returned : q.returned = allReturned calls

section Step

variable (q : Insert) (c : Call)

theorem target_apply : (q.apply c).target = c.table?.or q.target := by
  cases c with
  | set name v => cases v <;> rfl
  | _ => rfl

theorem targetColumns_apply : (q.apply c).targetColumns = q.targetColumns ++ c.targets := by
  cases c with
  | set name v => cases v <;> simp [apply, assign, Call.targets]
  | columns cs => rfl
  | _ => simp [apply, Call.targets, withSettings, withDialect, into, ignore, replace, values,
      returning, withComment]

theorem byColumn_apply : (q.apply c).byColumn = (q.byColumn || c.pair?.isSome) := by
  cases c with
  | set name v => cases v <;> simp [apply, assign, Call.pair?]
  | _ => simp [apply, Call.pair?, withSettings, withDialect, into, ignore, replace, values,
      columns, returning, withComment]

theorem byRow_apply : (q.apply c).byRow = (q.byRow || c.row?.isSome) := by
  cases c with
  | set name v => cases v <;> simp [apply, assign, Call.row?]
  | _ => simp [apply, Call.row?, withSettings, withDialect, into, ignore, replace, values,
      columns, returning, withComment]

theorem returned_apply : (q.apply c).returned = q.returned ++ c.returned := by
  cases c with
  | set name v => cases v <;> simp [apply, assign, Call.returned]
  | returning cs => rfl
  | _ => simp [apply, Call.returned, withSettings, withDialect, into, ignore, replace, values,
      columns, withComment]

theorem rows_apply : (q.apply c).rows = c.extend q.rows := by
  cases c with
  | set name v => cases v <;> rfl
  | _ => rfl

end Step

variable {calls : List Call} {q : Insert}

theorem pairs_append (calls : List Call) (c : Call) :
    pairs (calls ++ [c]) = pairs calls ++ c.pair?.toList := by
  cases hc : c.pair? <;> simp [pairs, hc]

theorem wholeRows_append (calls : List Call) (c : Call) :
    wholeRows (calls ++ [c]) = wholeRows calls ++ c.row?.toList := by
  cases hc : c.row? <;> simp [wholeRows, hc]

theorem unmixed_of_append {c : Call}
    (h : pairs (calls ++ [c]) = [] ∨ wholeRows (calls ++ [c]) = []) :
    pairs calls = [] ∨ wholeRows calls = [] := by
  rw [pairs_append, wholeRows_append] at h
  exact h.imp (fun hp => (List.append_eq_nil_iff.mp hp).1)
    fun hw => (List.append_eq_nil_iff.mp hw).1

theorem given_append {c : Call}
    (h : pairs (calls ++ [c]) = [] ∨ wholeRows (calls ++ [c]) = []) :
    given (calls ++ [c]) = c.extend (given calls) := by
  rw [pairs_append, wholeRows_append] at h
  rw [given, pairs_append, wholeRows_append, Call.extend]
  cases hrow : c.row? with
  | some row =>
    have hpair : c.pair? = none := by
      cases c <;> first | rfl | contradiction
    have hnone : pairs calls = [] := by simpa [hrow, hpair] using h
    simp [given, hnone, hpair]
  | none =>
    cases hpair : c.pair? with
    | some pair =>
      have hnone : wholeRows calls = [] := by simpa [hrow, hpair] using h
      -- The first value that comes with its column begins the row.
      by_cases hfirst : pairs calls = []
      · simp [given, hnone, hfirst, extendFirst]
      · simp [given, hfirst, extendFirst]
    | none => simp [given]

theorem Holds.apply (h : Holds q calls) (c : Call) : Holds (q.apply c) (calls ++ [c]) where
  target := by
    rw [target_apply, h.target]
    cases hc : c.table? <;> simp [lastTable?, hc]
  targetColumns := by
    rw [targetColumns_apply, h.targetColumns]
    simp [allTargets]
  byColumn := by
    rw [byColumn_apply, h.byColumn, pairs_append]
    cases c.pair? <;> simp
  byRow := by
    rw [byRow_apply, h.byRow, wholeRows_append]
    cases c.row? <;> simp
  rows hunmixed := by
    rw [rows_apply, h.rows (unmixed_of_append hunmixed), given_append hunmixed]
  returned := by
    rw [returned_apply, h.returned]
    simp [allReturned]

theorem holds_run (calls : List Call) : Holds (run calls) calls := by
  induction calls using List.reverseRecOn with
  | nil => exact ⟨rfl, rfl, rfl, rfl, fun _ => rfl, rfl⟩
  | append_singleton calls c ih =>
    rw [run, List.foldl_append]
    exact ih.apply c

/-! ### Which statements are built -/

theorem checkRows_ok_iff {n number : Nat} {rows : List (List Value)} :
    checkRows n number rows = .ok () ↔ ∀ row ∈ rows, row.length = n := by
  induction rows generalizing number with
  | nil => simp [checkRows]
  | cons row rows ih => by_cases h : row.length = n <;> simp [checkRows, h, ih]

/-- The statement has a table with a name, one way to give rows, usable columns, and rows with a value
for each of them. -/
structure IsAdmissible (d : Dialect) (calls : List Call) : Prop where
  table : ∃ t ∈ lastTable? calls, Text.allBlank t.name = false
  unmixed : pairs calls = [] ∨ wholeRows calls = []
  columns : ∀ c ∈ allTargets calls, c.check = .ok ()
  width : width calls ≠ 0
  rows : ∀ row ∈ given calls, row.length = Insert.width calls
  returned : allReturned calls = [] ∨ d.returning

theorem Holds.arity (h : Holds q calls) (hunmixed : pairs calls = [] ∨ wholeRows calls = []) :
    q.arity = width calls := by
  simp only [Insert.arity, width, h.targetColumns, h.rows hunmixed, List.isEmpty_iff]

theorem Holds.exists_build_iff (h : Holds q calls) :
    (∃ s, q.build = .ok s) ↔ IsAdmissible q.resolved calls := by
  -- The check asks for flags that the calls leave, not for the calls themselves.
  have hmixed : ¬(q.byColumn ∧ q.byRow) ↔ pairs calls = [] ∨ wholeRows calls = [] := by
    rw [h.byColumn, h.byRow]
    simp [imp_iff_not_or]
  have hchecks : (∃ s, q.build = .ok s) ↔
      q.check = .ok () ∧ checkReturning q.resolved q.returned = .ok () :=
    Draft.exists_build_iff
  rw [hchecks, Insert.check_ok_iff, checkRows_ok_iff, checkReturning_ok_iff, hmixed, h.target,
    h.targetColumns, h.returned]
  constructor
  · rintro ⟨⟨htable, hunmixed, hcolumns, harity, hrows⟩, hreturned⟩
    rw [h.arity hunmixed] at harity hrows
    rw [h.rows hunmixed] at hrows
    exact ⟨htable, hunmixed, hcolumns, harity, hrows, hreturned⟩
  · intro hall
    refine ⟨⟨hall.table, hall.unmixed, hall.columns, ?_, ?_⟩, hall.returned⟩
    · rw [h.arity hall.unmixed]
      exact hall.width
    · rw [h.arity hall.unmixed, h.rows hall.unmixed]
      exact hall.rows

/-! ### Texts of rows -/

/-- The placeholders of one row behind a number of operands. -/
def rowText (d : Dialect) (bound n : Nat) : String :=
  "(" ++ listText (fun i => d.placeholder (bound + i + 1)) (List.range n) ++ ")"

variable {d : Dialect}

theorem renderEach_operands (bound : Nat) (row : List Value) :
    renderEach d bound (row.map fun v => [.operand v]) =
      (List.range row.length).map fun i => d.placeholder (bound + i + 1) := by
  induction row generalizing bound with
  | nil => rfl
  | cons v row ih =>
    have hfirst : render d bound [.operand v] = d.placeholder (bound + 1) := String.append_empty
    have hnext : ∀ i, bound + 1 + i + 1 = bound + (i + 1) + 1 := by omega
    rw [List.map_cons, renderEach, hfirst, show (operands d [.operand v]).length = 1 from rfl, ih,
      List.length_cons, List.range_succ_eq_map, List.map_cons, List.map_map]
    simp [hnext, Function.comp_def]

theorem render_tuple (bound : Nat) (row : List Value) :
    render d bound (tuple (row.map fun v => [.operand v])) = rowText d bound row.length := by
  rw [tuple, List.cons_append, render, render_text_behind, render_separated,
    show (Token.operands d (.text "(")).length = 0 from rfl, Nat.add_zero, renderEach_operands]
  rw [rowText, listText, String.append_assoc]
  rfl

theorem operands_tuple (row : List Value) :
    operands d (tuple (row.map fun v => [.operand v])) = row :=
  (lays_row row).values.trans (Site.map_value_ofList "(" row)

/-- Rows of one length follow each other, and the placeholders count through them. -/
theorem renderEach_tuples {n : Nat} (bound : Nat) {rows : List (List Value)}
    (h : ∀ row ∈ rows, row.length = n) :
    renderEach d bound (rows.map fun row => tuple (row.map fun v => [.operand v])) =
      (List.range rows.length).map fun r => rowText d (bound + r * n) n := by
  induction rows generalizing bound with
  | nil => rfl
  | cons row rows ih =>
    obtain ⟨hrow, hrows⟩ := List.forall_mem_cons.mp h
    have hnext : ∀ r, bound + n + r * n = bound + (r + 1) * n := by
      intro r
      rw [Nat.succ_mul]
      omega
    rw [List.map_cons, renderEach, render_tuple, operands_tuple, hrow, ih _ hrows,
      List.length_cons, List.range_succ_eq_map, List.map_cons, List.map_map]
    simp [hnext, Function.comp_def]

theorem render_rows {n : Nat} (harity : q.arity = n) (hrows : ∀ row ∈ q.rows, row.length = n) :
    render d 0 q.rowsFragment =
      listText (fun r => rowText d (r * n) n) (List.range (max 1 q.rows.length)) := by
  by_cases hnone : q.rows = []
  · rw [render_template hnone, hnone, templateRow, harity]
    simp [listText, rowText]
  · have hlength : max 1 q.rows.length = q.rows.length :=
      Nat.max_eq_right (List.length_pos_of_ne_nil hnone)
    have hrest := renderEach_tuples (d := d) 0 hrows
    simp only [Nat.zero_add] at hrest
    rw [rowsFragment, if_neg (by simpa using hnone), render_separated, hrest, hlength, listText]

/-! ### Texts of statements -/

def headText (d : Dialect) (verb : InsertVerb) (t : Table) (columns : List Column) : String :=
  verb.keyword ++ " INTO " ++ t.text d ++
    (if columns.isEmpty then "" else " (" ++ listText (Column.text d) columns ++ ")") ++ " VALUES "

def tailText (d : Dialect) (returned : List Column) (comment : Option String) : String :=
  (if returned.isEmpty then "" else " RETURNING " ++ listText (Column.text d) returned) ++
    commentText comment

theorem writes_columns (columns : List Column) :
    Writes d (Column.listFragment columns) (listText (Column.text d) columns) :=
  writes_separated ", " writes_column

theorem writes_head {t : Table} (ht : q.target = some t) :
    Writes d q.headFragment (headText d q.verb t q.targetColumns) := by
  have hcolumns := ((writes_columns (d := d) q.targetColumns).behind_text " (").append (writes_text ")")
  have htarget := (writes_table (d := d) t).behind_text (q.verb.keyword ++ " INTO ")
  rw [headFragment, ht]
  exact (htarget.append (writes_ite writes_nil hcolumns)).append (writes_text " VALUES ")

theorem writes_tail : Writes d q.draft.tail (tailText d q.returned q.comment) := by
  have hreturned := (writes_columns (d := d) q.returned).behind_text " RETURNING "
  exact (writes_ite writes_nil hreturned).append (writes_comment q.comment)

theorem text_of_build {s : Statement} (h : q.build = .ok s) {t : Table} (ht : q.target = some t)
    (hrows : ∀ row ∈ q.rows, row.length = q.arity) :
    s.text = headText s.dialect q.verb t q.targetColumns ++
      listText (fun r => rowText s.dialect (r * q.arity) q.arity)
        (List.range (max 1 q.rows.length)) ++
      tailText s.dialect q.returned q.comment := by
  obtain ⟨-, -, rfl⟩ := Draft.build_ok_iff.mp h
  have hhead := writes_head (d := q.resolved) ht
  show render q.resolved 0 q.draft.fragment = _
  rw [draft_fragment_eq, render_append, render_append, hhead.render_eq, hhead.operands_eq,
    writes_tail.render_eq, List.length_nil, Nat.add_zero, render_rows rfl hrows]
  rfl

/-! ### Columns and their values -/

theorem pairs_sublist (calls : List Call) :
    ((pairs calls).map Prod.fst).Sublist (allTargets calls) := by
  induction calls with
  | nil => exact .slnil
  | cons c calls ih =>
    have hpairs : pairs (c :: calls) = c.pair?.toList ++ pairs calls := by
      cases hc : c.pair? <;> simp [pairs, hc]
    have hone : (c.pair?.toList.map Prod.fst).Sublist c.targets := by
      cases c with
      | set name v => cases v <;> exact .refl _
      | _ => exact List.nil_sublist _
    rw [hpairs, List.map_append, allTargets, List.flatMap_cons]
    exact hone.append ih

/-- Once values are given with their columns, there are no other columns. -/
theorem IsAdmissible.allTargets_eq (h : IsAdmissible d calls) (hpairs : pairs calls ≠ []) :
    allTargets calls = (pairs calls).map Prod.fst := by
  have hsub := pairs_sublist calls
  have hne : allTargets calls ≠ [] := by
    intro hnil
    rw [hnil, List.sublist_nil, List.map_eq_nil_iff] at hsub
    exact hpairs hsub
  -- The one row has a value for each column, so that no column came without a value.
  have hlength := h.rows ((pairs calls).map Prod.snd) (by simp [given, hpairs])
  rw [Insert.width, if_neg hne, List.length_map] at hlength
  exact (hsub.eq_of_length (by rw [List.length_map, hlength])).symm

theorem getElem?_flatten {n : Nat} {rows : List (List Value)} (h : ∀ row ∈ rows, row.length = n)
    {r c : Nat} {row : List Value} {v : Value} (hrow : rows[r]? = some row)
    (hv : row[c]? = some v) : rows.flatten[r * n + c]? = some v := by
  induction rows generalizing r with
  | nil => contradiction
  | cons first rows ih =>
    obtain ⟨hfirst, hrest⟩ := List.forall_mem_cons.mp h
    rw [List.flatten_cons]
    cases r with
    | zero =>
      obtain rfl : first = row := by simpa using hrow
      obtain ⟨hc, -⟩ := List.getElem?_eq_some_iff.mp hv
      rwa [Nat.zero_mul, Nat.zero_add, List.getElem?_append_left hc]
    | succ r =>
      have hplace : (r + 1) * n + c = n + (r * n + c) := by
        rw [Nat.succ_mul]
        omega
      rw [hplace, List.getElem?_append_right (by omega), hfirst, Nat.add_sub_cancel_left]
      exact ih hrest (by simpa using hrow)

end Insert

/-- A statement made by any calls is built exactly if the calls name a table with a name, give rows in
one way only, name usable columns, and give rows with a value for each of them, and if the dialect
returns rows where columns are asked for. Its rows are then written in the order of the calls with a
placeholder for each cell, and the operands are the cells row by row. Values that are given with
their columns are one row, and each has its column in its place. Without rows there is one row of
placeholders and nothing is bound. -/
theorem insertions_write_their_rows (calls : List Insert.Call) :
    let q := Insert.run calls
    let n := Insert.width calls
    let rows := Insert.given calls
    ((∃ s, q.build = .ok s) ↔ Insert.IsAdmissible q.resolved calls) ∧
    ∀ s, q.build = .ok s →
      (∃ t ∈ Insert.lastTable? calls,
        s.text = Insert.headText q.resolved q.verb t (Insert.allTargets calls) ++
          listText (fun r => Insert.rowText q.resolved (r * n) n) (List.range (max 1 rows.length)) ++
          Insert.tailText q.resolved (Insert.allReturned calls) q.comment) ∧
      s.operands = rows.flatten ∧
      (∀ r c row v, rows[r]? = some row → row[c]? = some v → s.operands[r * n + c]? = some v) ∧
      (Insert.pairs calls = [] → rows = Insert.wholeRows calls) ∧
      (Insert.pairs calls ≠ [] → Insert.allTargets calls = (Insert.pairs calls).map Prod.fst ∧
        rows = [(Insert.pairs calls).map Prod.snd]) := by
  intro q n rows
  have hq := Insert.holds_run calls
  refine ⟨hq.exists_build_iff, fun s hs => ?_⟩
  have hall := hq.exists_build_iff.mp ⟨s, hs⟩
  have hrows : q.rows = rows := hq.rows hall.unmixed
  have harity : q.arity = n := hq.arity hall.unmixed
  have hlengths : ∀ row ∈ q.rows, row.length = q.arity := by
    rw [hrows, harity]
    exact hall.rows
  have hoperands : s.operands = rows.flatten := by
    obtain ⟨-, -, rfl⟩ := Draft.build_ok_iff.mp hs
    rw [← hrows]
    exact q.operands_draft
  obtain ⟨t, ht, -⟩ := hall.table
  have htext := Insert.text_of_build hs (hq.target.trans ht) hlengths
  rw [hrows, harity, hq.targetColumns, hq.returned] at htext
  refine ⟨⟨t, ht, ?_⟩, hoperands, ?_, fun hpairs => ?_, fun hpairs => ⟨?_, ?_⟩⟩
  · obtain ⟨-, -, rfl⟩ := Draft.build_ok_iff.mp hs
    exact htext
  · intro r c row v hrow hv
    rw [hoperands]
    exact Insert.getElem?_flatten hall.rows hrow hv
  · exact if_pos hpairs
  · exact hall.allTargets_eq hpairs
  · exact if_neg hpairs

/-- Two rows, one in front of the columns and one behind them. -/
theorem insertions_write_their_rows_apart :
    let calls : List Insert.Call := [.dialect .postgres, .values [.int 1, .text "x"],
      .columns [.parse "a", .parse "b"], .into (.parse "t"), .set "c" none, .values [.int 2, .null]]
    let s : Statement := .ofFragment .postgres (Insert.run calls).draft.fragment
    (Insert.run calls).build = .ok s ∧ Insert.IsAdmissible .postgres calls ∧
      s.text = "INSERT INTO \"t\" (\"a\", \"b\") VALUES ($1, $2), ($3, $4)" ∧
      s.operands = [.int 1, .text "x", .int 2, .null] ∧ s.operands[1 * 2 + 0]? = some (.int 2) := by
  intro calls s
  have hbuild : (Insert.run calls).build = .ok s := rfl
  obtain ⟨hiff, hall⟩ := insertions_write_their_rows calls
  obtain ⟨⟨t, ht, htext⟩, hoperands, hcells, -, -⟩ := hall s hbuild
  obtain rfl : Table.parse "t" = t := Option.some.inj ht
  refine ⟨hbuild, hiff.mp ⟨s, hbuild⟩, htext.trans ?_, hoperands, ?_⟩
  · decide +kernel
  · exact hcells 1 0 [.int 2, .null] (.int 2) rfl rfl

end QueryKit
