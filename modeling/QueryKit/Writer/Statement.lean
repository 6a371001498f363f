import QueryKit.Assembler
import QueryKit.Writer.Condition

/-! Statements as writers. A statement is written on a fresh sheet in its dialect, clause by clause.
The columns of changed rows are asked for last, where the dialect may still refuse them. -/

namespace QueryKit

namespace Sheet

def aliased (s : Sheet) : Option String → Sheet
  | some aliasName => (s.append " AS ").name aliasName
  | none => s

def table (s : Sheet) (t : Table) : Sheet :=
  (s.column (.parse t.name)).aliased t.aliasName

def join (s : Sheet) (j : Join) : Sheet :=
  ((((s.append " ").append j.kind.keyword).append " ").table j.table).clause " ON "
    (·.compileAll j.conditions)

def selection (s : Sheet) (x : Selection) : Sheet :=
  (s.column x.column).aliased x.aliasName

def orderingKey (s : Sheet) (k : Ordering.Key) : Sheet :=
  match k.direction with
  | some .ascending => (s.column k.column).append " ASC"
  | some .descending => (s.column k.column).append " DESC"
  | none => s.column k.column

def assignment (s : Sheet) : Assignment → Sheet
  | .value column v => s.compile (.equals column v)
  | .verbatim column expression => ((s.column column).append "=").append expression
  | .template column expression values =>
    ((s.column column).append "=").compile (.template expression values)

def window (s : Sheet) (limit offset : Option UInt64) : Sheet :=
  s.append (s.dialect.window limit offset)

def page (s : Sheet) (p : Page) : Sheet :=
  if s.dialect.offsetFetch then
    ((((s.append " OFFSET ").operand (.ofCount p.offset)).append " ROWS FETCH NEXT ").operand
      (.ofCount p.limit)).append " ROWS ONLY"
  else
    (((s.append " LIMIT ").operand (.ofCount p.limit)).append " OFFSET ").operand
      (.ofCount p.offset)

def token (s : Sheet) : Token → Sheet
  | .text text => s.append text
  | .name identifier => s.name identifier
  | .operand v => s.operand v
  | .marker number => s.append (s.dialect.placeholder number)
  | .never => s.append s.dialect.never
  | .always => s.append s.dialect.always
  | .window limit offset => s.window limit offset
  | .page p => s.page p

/-- Writes what takes the place of limit and offset, or else these. -/
def paging (s : Sheet) (limit offset : Option UInt64) : Option Fragment → Sheet
  | some tokens => tokens.foldl token s
  | none => s.window limit offset

def listBehind {α : Type} (s : Sheet) (keyword : String) (write : Sheet → α → Sheet)
    (xs : List α) : Sheet :=
  if xs.isEmpty then s else (s.append keyword).list write xs

/-- Writes a comment without blanks around it; a blank one is left out. -/
def comment (s : Sheet) : Option String → Sheet
  | none => s
  | some text =>
    let body := Text.trim text
    if body.isEmpty then s
    else ((s.append " /* ").append (String.ofList (commentChars body.toList))).append " */"

/-- Asks for columns of changed rows, if the dialect returns them. -/
def returning (s : Sheet) (columns : List Column) : Except BuildError Sheet := do
  checkReturning s.dialect columns
  pure (s.listBehind " RETURNING " column columns)

def tuple {α : Type} (s : Sheet) (write : Sheet → α → Sheet) (xs : List α) : Sheet :=
  ((s.append "(").list write xs).append ")"

end Sheet

/-! ### SELECT -/

/-- What is selected of the rows. -/
inductive Projection
  | number
  | one
  | columns

namespace Select

def writeProjection (q : Select) (s : Sheet) : Projection → Sheet
  | .number => s.append "COUNT(*)"
  | .one => s.append "1"
  | .columns => (if q.isDistinct then s.append "DISTINCT " else s).list .selection q.selections

def writeCore (q : Select) (s : Sheet) (projection : Projection) : Sheet :=
  let s := q.writeProjection (s.append "SELECT ") projection
  let s := (s.append " FROM ").list .table q.tables
  let s := q.joins.foldl .join s
  let s := s.clause " WHERE " (·.compileAll q.conditions)
  let s := s.listBehind " GROUP BY " .column q.grouping
  s.clause " HAVING " (·.compileAll q.groupConditions)

def writeTail (q : Select) (s : Sheet) : Sheet :=
  let s := s.listBehind " ORDER BY " .orderingKey q.ordering
  let s := s.paging q.limit q.offset q.paging
  let s := if q.locks then s.append " FOR UPDATE" else s
  s.comment q.comment

def write (q : Select) : Except Error Statement := do
  q.check.mapError .build
  let s := q.writeCore { dialect := q.resolved } .columns
  pure (q.writeTail s).statement

/-- Writes the number of the rows, of a statement inside if they are distinct or grouped. -/
def writeNumber (q : Select) (s : Sheet) : Sheet :=
  if q.countsAround then
    (q.writeCore (s.append "SELECT COUNT(*) FROM (")
      (if q.isDistinct && !q.selections.isEmpty then .columns else .one)).append ") AS t"
  else q.writeCore s .number

def writeCount (q : Select) : Except Error Statement := do
  q.checkCount.mapError .build
  pure ((q.writeNumber { dialect := q.resolved }).comment q.comment).statement

end Select

/-! ### INSERT, UPDATE and DELETE -/

/-- Ends a statement with the columns of changed rows and a comment. -/
def Sheet.finish (s : Sheet) (returned : List Column) (comment : Option String) :
    Except Error Statement := do
  let s ← (s.returning returned).mapError .build
  pure (s.comment comment).statement

namespace Insert

def writeTarget (q : Insert) (s : Sheet) : Sheet :=
  let s := (q.target.map s.table).getD s
  if q.targetColumns.isEmpty then s
  else ((s.append " (").list .column q.targetColumns).append ")"

/-- Writes rows one after the other, or placeholders alone if there are none. -/
def writeRows (q : Insert) (s : Sheet) : Sheet :=
  if q.rows.isEmpty then
    s.tuple (fun s i => s.append (s.dialect.placeholder (i + 1))) (List.range q.arity)
  else s.list (fun s row => s.tuple .operand row) q.rows

def writeBody (q : Insert) (s : Sheet) : Sheet :=
  q.writeRows ((q.writeTarget ((s.append q.verb.keyword).append " INTO ")).append " VALUES ")

def write (q : Insert) : Except Error Statement := do
  q.check.mapError .build
  (q.writeBody { dialect := q.resolved }).finish q.returned q.comment

end Insert

namespace Update

def writeBody (q : Update) (s : Sheet) : Sheet :=
  let s := q.joins.foldl .join ((s.append "UPDATE ").list .table q.tables)
  let s := (s.append " SET ").list .assignment q.assignments
  let s := s.listBehind " FROM " .table q.sources
  let s := s.clause " WHERE " (·.compileAll q.conditions)
  let s := s.listBehind " ORDER BY " .column q.ordering
  s.window q.limit none

def write (q : Update) : Except Error Statement := do
  q.check.mapError .build
  (checkLimit "UPDATE" q.resolved q.limit).mapError .build
  (q.writeBody { dialect := q.resolved }).finish q.returned q.comment

end Update

namespace Delete

def writeTargets (q : Delete) (s : Sheet) : Sheet :=
  if q.targets.isEmpty then s else (s.list .column q.targets).append " "

def writeBody (q : Delete) (s : Sheet) : Sheet :=
  let s := q.writeTargets (s.append "DELETE ")
  let s := q.joins.foldl .join ((s.append "FROM ").list .table q.tables)
  let s := s.clause " WHERE " (·.compileAll q.conditions)
  let s := s.listBehind " ORDER BY " .column q.ordering
  s.window q.limit none

def write (q : Delete) : Except Error Statement := do
  q.check.mapError .build
  (checkLimit "DELETE" q.resolved q.limit).mapError .build
  (q.writeBody { dialect := q.resolved }).finish q.returned q.comment

end Delete

def Assembler.write : Assembler → Except Error Statement
  | select q => q.write
  | insert q => q.write
  | update q => q.write
  | delete q => q.write

end QueryKit
