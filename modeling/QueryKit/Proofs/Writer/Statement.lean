import QueryKit.Proofs.Check
import QueryKit.Proofs.Writer.Condition
import QueryKit.Writer.Statement

/-! Statements as writers and as tokens. In a dialect with placeholders and constant predicates, a
statement that is written clause by clause is the one that is built from its tokens, and it is
refused for the same reason. -/

namespace QueryKit

namespace Sheet

variable (s : Sheet)

theorem aliased_eq (aliasName : Option String) : s.aliased aliasName =
    s.write (match aliasName with
      | some aliasName => [.text " AS ", .name aliasName]
      | none => []) := by
  cases aliasName with
  | none => exact s.write_nil.symm
  | some aliasName =>
    rw [aliased, name_eq, append_eq, write_write]
    rfl

theorem table_eq (t : Table) : s.table t = s.write t.fragment := by
  rw [table, aliased_eq, column_eq, write_write]
  rfl

theorem tables_eq (ts : Tables) : s.list table ts = s.write ts.fragment :=
  list_eq ts fun t _ r _ => r.table_eq t

theorem selection_eq (x : Selection) : s.selection x = s.write x.fragment := by
  rw [selection, aliased_eq, column_eq, write_write]
  rfl

theorem columns_eq (columns : List Column) :
    s.list column columns = s.write (Column.listFragment columns) :=
  list_eq columns fun c _ r _ => r.column_eq c

theorem listBehind_eq {α : Type} {write : Sheet → α → Sheet} {tokens : α → Fragment}
    (keyword : String) (xs : List α) (h : ∀ x ∈ xs, ∀ r : Sheet, write r x = r.write (tokens x)) :
    s.listBehind keyword write xs = s.write (if xs.isEmpty then []
      else .text keyword :: Fragment.separated ", " (xs.map tokens)) := by
  unfold listBehind
  split
  · exact s.write_nil.symm
  · rw [list_eq xs fun x hx r _ => h x hx r, append_eq, write_write]
    rfl

theorem columnsBehind_eq (keyword : String) (columns : List Column) :
    s.listBehind keyword column columns =
      s.write (if columns.isEmpty then [] else .text keyword :: Column.listFragment columns) :=
  s.listBehind_eq keyword columns fun c _ r => r.column_eq c

theorem tablesBehind_eq (keyword : String) (ts : Tables) :
    s.listBehind keyword table ts =
      s.write (if ts.isEmpty then [] else .text keyword :: ts.fragment) :=
  s.listBehind_eq keyword ts fun t _ r => r.table_eq t

theorem orderingKey_eq (k : Ordering.Key) : s.orderingKey k = s.write k.fragment := by
  obtain ⟨column, direction⟩ := k
  match direction with
  | none =>
    rw [orderingKey, column_eq, Ordering.Key.fragment, List.append_nil]
  | some .ascending =>
    show (s.column column).append " ASC" = _
    rw [append_eq, column_eq, write_write]
    rfl
  | some .descending =>
    show (s.column column).append " DESC" = _
    rw [append_eq, column_eq, write_write]
    rfl

theorem assignment_eq (a : Assignment) : s.assignment a = s.write a.fragment := by
  cases a with
  | value column v => exact s.compile_of_isLeaf rfl
  | verbatim column expression =>
    rw [assignment, append_eq, append_eq, column_eq, write_write, write_write]
    simp [Assignment.fragment]
  | template column expression values =>
    rw [assignment, compile_of_isLeaf _ rfl, append_eq, column_eq, write_write, write_write]
    simp [Assignment.fragment]

theorem window_eq (limit offset : Option UInt64) :
    s.window limit offset = s.write [.window limit offset] :=
  s.append_render (t := .window limit offset) rfl

theorem page_eq (p : Page) : s.page p = s.write [.page p] := by
  by_cases h : s.dialect.offsetFetch <;>
    simp [page, append_eq, operand_eq, h, write, Fragment.render, Fragment.operands,
      Token.render, Token.operands, String.append_assoc]

theorem token_eq (t : Token) : s.token t = s.write [t] := by
  cases t with
  | text text => exact s.append_eq text
  | name identifier => exact s.name_eq identifier
  | operand v => exact s.operand_eq v
  | page p => exact s.page_eq p
  | window limit offset => exact s.window_eq limit offset
  | marker number => exact s.append_render (t := .marker number) rfl
  | never => exact s.append_render (t := .never) rfl
  | always => exact s.append_render (t := .always) rfl

theorem tokens_eq (f : Fragment) : f.foldl token s = s.write f := by
  induction f generalizing s with
  | nil => exact s.write_nil.symm
  | cons t ts ih =>
    rw [List.foldl_cons, ih, token_eq, write_write]
    rfl

theorem paging_eq (limit offset : Option UInt64) (f : Option Fragment) :
    s.paging limit offset f = s.write (f.getD [.window limit offset]) := by
  cases f with
  | none => exact s.window_eq limit offset
  | some f => exact s.tokens_eq f

theorem comment_eq (text : Option String) : s.comment text = s.write (commentFragment text) := by
  cases text with
  | none => exact s.write_nil.symm
  | some text =>
    rw [comment, commentFragment]
    split
    · exact s.write_nil.symm
    · rw [append_append, append_append, append_eq, String.append_assoc]

theorem returning_eq (columns : List Column) : s.returning columns =
    (checkReturning s.dialect columns).map fun _ => s.write (returningFragment columns) := by
  rw [returning, columnsBehind_eq]
  cases checkReturning s.dialect columns <;> rfl

theorem tuple_eq {α : Type} {write : Sheet → α → Sheet} {tokens : α → Fragment} (xs : List α)
    (h : ∀ x ∈ xs, ∀ r : Sheet, write r x = r.write (tokens x)) :
    s.tuple write xs = s.write (Insert.tuple (xs.map tokens)) := by
  rw [tuple, append_eq, append_eq, list_eq xs fun x hx r _ => h x hx r, write_write, write_write]
  simp [Insert.tuple]

section Visible

variable {s} (hd : s.dialect.Visible)
include hd

theorem join_eq (j : Join) : s.join j = s.write j.fragment := by
  rw [join, append_append, append_append, append_eq, table_eq, write_write,
    clause_eq (s := s.write _) hd, write_write]
  rfl

theorem joins_eq (js : List Join) : js.foldl join s = s.write (js.flatMap Join.fragment) := by
  induction js generalizing s with
  | nil => exact s.write_nil.symm
  | cons j js ih =>
    rw [List.foldl_cons, join_eq hd, ih (s := s.write j.fragment) hd, write_write]
    rfl

end Visible

end Sheet

/-! ### SELECT -/

/-- The tokens of what is selected of the rows. -/
def Projection.fragment (q : Select) : Projection → Fragment
  | number => [.text "COUNT(*)"]
  | one => [.text "1"]
  | columns => q.selectionFragment

namespace Select

variable (q : Select) (s : Sheet)

theorem writeProjection_eq (projection : Projection) :
    q.writeProjection s projection = s.write (projection.fragment q) := by
  cases projection with
  | number | one => exact s.append_eq _
  | columns =>
    rw [writeProjection, Sheet.list_eq q.selections fun x _ r _ => r.selection_eq x,
      Projection.fragment, selectionFragment]
    split
    · rw [Sheet.append_eq, Sheet.write_write]
    · rw [List.nil_append]

theorem writeTail_eq : q.writeTail s = s.write q.tailFragment := by
  have hordering : s.listBehind " ORDER BY " .orderingKey q.ordering =
      s.write q.orderingFragment :=
    s.listBehind_eq " ORDER BY " q.ordering fun k _ r => r.orderingKey_eq k
  have hlock : ∀ r : Sheet, (if q.locks then r.append " FOR UPDATE" else r) =
      r.write (if q.locks then [.text " FOR UPDATE"] else []) := fun r => by
    split
    · exact r.append_eq _
    · exact r.write_nil.symm
  simp only [writeTail, hordering, Sheet.paging_eq, hlock, Sheet.comment_eq, Sheet.write_write,
    tailFragment]

variable {s} (hd : s.dialect.Visible)
include hd

theorem writeCore_eq (projection : Projection) : q.writeCore s projection =
    s.write (.text "SELECT " :: projection.fragment q ++ q.sourceFragment) := by
  simp only [writeCore, Sheet.append_eq, writeProjection_eq, Sheet.tables_eq, Sheet.joins_eq,
    Sheet.clause_eq, Sheet.columnsBehind_eq, Sheet.write_write, Sheet.write_dialect, hd]
  simp [sourceFragment]

/-- The texts of both statements that count are cut elsewhere than their tokens. -/
theorem writeNumber_comment_eq :
    (q.writeNumber s).comment q.comment = s.write q.countDraft.body := by
  have haround (projection : Projection) :
      (q.writeCore (s.append "SELECT COUNT(*) FROM (") projection).append ") AS t" =
        s.write (.text "SELECT COUNT(*) FROM (SELECT " :: projection.fragment q ++
          q.sourceFragment ++ [.text ") AS t"]) := by
    have htext : "SELECT COUNT(*) FROM (SELECT " = "SELECT COUNT(*) FROM (" ++ "SELECT " := rfl
    rw [writeCore_eq q (s := s.append _) hd, Sheet.append_eq _ ") AS t", Sheet.write_write, htext]
    exact (s.write_text_append _ _ _).symm
  have hplain : q.writeCore s .number = s.write (.text "SELECT COUNT(*)" :: q.sourceFragment) := by
    have htext : "SELECT COUNT(*)" = "SELECT " ++ "COUNT(*)" := rfl
    rw [writeCore_eq q hd, htext, Sheet.write_text_append, Sheet.append_eq, Sheet.write_write]
    rfl
  rw [writeNumber, hplain, haround, ← apply_ite, Sheet.comment_eq, Sheet.write_write, countDraft]
  congr 4
  split <;> rfl

end Select

/-! ### INSERT, UPDATE and DELETE -/

theorem Insert.writeTarget_eq (q : Insert) (s : Sheet) : q.writeTarget s =
    s.write ((q.target.map Table.fragment).getD [] ++
      if q.targetColumns.isEmpty then []
      else .text " (" :: Column.listFragment q.targetColumns ++ [.text ")"]) := by
  have htarget : (q.target.map s.table).getD s =
      s.write ((q.target.map Table.fragment).getD []) := by
    cases q.target with
    | none => exact s.write_nil.symm
    | some t => exact s.table_eq t
  rw [writeTarget, htarget]
  split
  · rw [List.append_nil]
  · simp only [Sheet.columns_eq, Sheet.append_eq, Sheet.write_write]
    simp

theorem Insert.writeRows_eq (q : Insert) (s : Sheet) : q.writeRows s = s.write q.rowsFragment := by
  unfold writeRows rowsFragment
  split
  · exact s.tuple_eq (List.range q.arity) fun i _ r => r.append_render (t := .marker (i + 1)) rfl
  · refine Sheet.list_eq q.rows fun row _ r _ => ?_
    exact r.tuple_eq row fun v _ r => r.operand_eq v

theorem Insert.writeBody_eq (q : Insert) (s : Sheet) : q.writeBody s = s.write q.body := by
  rw [writeBody, Sheet.append_append, Sheet.append_eq, writeTarget_eq, Sheet.append_eq,
    writeRows_eq, Sheet.write_write, Sheet.write_write, Sheet.write_write]
  simp [body]

theorem Update.writeBody_eq (q : Update) {s : Sheet} (hd : s.dialect.Visible) :
    q.writeBody s = s.write q.body := by
  have hassignments (r : Sheet) : r.list .assignment q.assignments =
      r.write (Fragment.separated ", " (q.assignments.map Assignment.fragment)) :=
    Sheet.list_eq q.assignments fun a _ r _ => r.assignment_eq a
  simp only [writeBody, Sheet.append_eq, Sheet.tables_eq, Sheet.tablesBehind_eq, Sheet.joins_eq,
    hassignments, Sheet.clause_eq, Sheet.columnsBehind_eq, Sheet.window_eq, Sheet.write_write,
    Sheet.write_dialect, hd]
  simp [body, orderFragment]

theorem Delete.writeTargets_eq (q : Delete) (s : Sheet) : q.writeTargets s =
    s.write (if q.targets.isEmpty then [] else Column.listFragment q.targets ++ [.text " "]) := by
  unfold writeTargets
  split
  · exact s.write_nil.symm
  · rw [Sheet.columns_eq, Sheet.append_eq, Sheet.write_write]

theorem Delete.writeBody_eq (q : Delete) {s : Sheet} (hd : s.dialect.Visible) :
    q.writeBody s = s.write q.body := by
  simp only [writeBody, Sheet.append_eq, writeTargets_eq, Sheet.tables_eq, Sheet.joins_eq,
    Sheet.clause_eq, Sheet.columnsBehind_eq, Sheet.window_eq, Sheet.write_write,
    Sheet.write_dialect, hd]
  simp [body, orderFragment]

/-! ### Whole statements -/

/-- What is written on a fresh sheet. -/
theorem Sheet.statement_write (d : Dialect) (f : Fragment) :
    (({ dialect := d } : Sheet).write f).statement = .ofFragment d f := by
  simp [write, statement, Statement.ofFragment]

/-- Behind its body, a statement asks for columns of changed rows, if the dialect returns them. -/
theorem Sheet.finish_eq (d : Dialect) (f : Fragment) (columns : List Column)
    (text : Option String) :
    (({ dialect := d } : Sheet).write f).finish columns text = (do
      (checkReturning d columns).mapError Error.build
      pure (.ofFragment d (f ++ (returningFragment columns ++ commentFragment text)))) := by
  rw [finish, returning_eq, write_dialect]
  cases checkReturning d columns with
  | error e => rfl
  | ok =>
    show Except.ok (Sheet.comment _ text).statement = Except.ok _
    rw [comment_eq, write_write, write_write, statement_write]

/-- A draft that is not checked again is written at once. -/
theorem Draft.build_of_body {D : Draft} (hcompletion : D.completion = .ok ()) (htail : D.tail = []) :
    D.build = (do
      D.admission.mapError Error.build
      pure (.ofFragment D.dialect D.body)) := by
  rw [Draft.build, Draft.fragment, hcompletion, htail, List.append_nil]
  rfl

theorem Select.write_eq {q : Select} (hd : q.resolved.Visible) : q.write = q.build := by
  show (do
    q.check.mapError Error.build
    pure (q.writeTail (q.writeCore { dialect := q.resolved } .columns)).statement) = _
  rw [build, Draft.build_of_body rfl rfl, writeTail_eq,
    writeCore_eq q (s := { dialect := q.resolved }) hd, Sheet.write_write, Sheet.statement_write]
  rfl

theorem Select.writeCount_eq {q : Select} (hd : q.resolved.Visible) : q.writeCount = q.count := by
  rw [writeCount, count, Draft.build_of_body rfl rfl,
    writeNumber_comment_eq q (s := { dialect := q.resolved }) hd, Sheet.statement_write]
  rfl

theorem Insert.write_eq (q : Insert) : q.write = q.build := by
  rw [write, writeBody_eq, Sheet.finish_eq]
  rfl

theorem Update.write_eq {q : Update} (hd : q.resolved.Visible) : q.write = q.build := by
  rw [write, writeBody_eq q (s := { dialect := q.resolved }) hd, Sheet.finish_eq,
    ← Check.mapError_then]
  rfl

theorem Delete.write_eq {q : Delete} (hd : q.resolved.Visible) : q.write = q.build := by
  rw [write, writeBody_eq q (s := { dialect := q.resolved }) hd, Sheet.finish_eq,
    ← Check.mapError_then]
  rfl

/-- In a dialect with placeholders and constant predicates, every statement is written as it is
built from its tokens. -/
theorem Assembler.write_eq {a : Assembler} (hd : a.draft.dialect.Visible) : a.write = a.build := by
  cases a with
  | select q => exact Select.write_eq hd
  | insert q => exact q.write_eq
  | update q => exact Update.write_eq hd
  | delete q => exact Delete.write_eq hd

end QueryKit
