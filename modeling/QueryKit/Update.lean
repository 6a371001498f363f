import QueryKit.Clause
import QueryKit.Draft
import QueryKit.Settings
import QueryKit.Table

/-! UPDATE statements. A column is set to a value, to an expression as it stands, or to an
expression with values in it. -/

namespace QueryKit

/-- What a column is set to. -/
inductive Assignment
  | value (column : Column) (v : Value)
  | verbatim (column : Column) (expression : String)
  | template (column : Column) (expression : String) (values : List Value)

namespace Assignment

/-- The column has a usable name, and a template as many marks as values. -/
def check : Assignment → Except BuildError Unit
  | value column _ | verbatim column _ => column.check
  | template column expression values => do
    column.check
    Condition.checkTemplate expression values

def fragment : Assignment → Fragment
  | value column v => (Condition.equals column v).fragment
  | verbatim column expression => column.fragment ++ [.text "=", .text expression]
  | template column expression values =>
    column.fragment ++ .text "=" :: (Condition.template expression values).fragment

end Assignment

/-- An UPDATE statement in the making. -/
structure Update where
  settings : Settings := {}
  dialect : Option Dialect := none
  tables : Tables := []
  joins : List Join := []
  assignments : List Assignment := []
  sources : Tables := []
  conditions : List Condition := []
  ordering : List Column := []
  limit : Option UInt64 := none
  returned : List Column := []
  comment : Option String := none

namespace Update

def withSettings (q : Update) (s : Settings) : Update := { q with settings := s }

def withDialect (q : Update) (d : Dialect) : Update := { q with dialect := some d }

def table (q : Update) (t : Table) : Update := { q with tables := q.tables.add t }

def join (q : Update) (j : Join) : Update := { q with joins := q.joins ++ [j] }

def assign (q : Update) (a : Assignment) : Update :=
  { q with assignments := q.assignments ++ [a] }

def source (q : Update) (t : Table) : Update := { q with sources := q.sources.add t }

def filter (q : Update) (c : Condition) : Update := { q with conditions := q.conditions ++ [c] }

def orderBy (q : Update) (c : Column) : Update := { q with ordering := q.ordering ++ [c] }

def withLimit (q : Update) (n : UInt64) : Update := { q with limit := some n }

/-- Asks for columns of the changed rows. -/
def returning (q : Update) (cs : List Column) : Update := { q with returned := q.returned ++ cs }

def withComment (q : Update) (text : String) : Update := { q with comment := some text }

/-- The dialect that the statement is written in. -/
def resolved (q : Update) : Dialect :=
  q.settings.resolve q.dialect

/-- The statement has a table and an assignment, and everything in it passes its check. -/
def check (q : Update) : Except BuildError Unit := do
  if q.tables.isEmpty then throw .updateWithoutTable
  if q.assignments.isEmpty then throw .updateWithoutAssignment
  q.assignments.forM Assignment.check
  Join.checkAll q.joins
  Condition.checkAll q.conditions

def body (q : Update) : Fragment :=
  .text "UPDATE " :: q.tables.fragment ++ q.joins.flatMap Join.fragment ++
    .text " SET " :: Fragment.separated ", " (q.assignments.map Assignment.fragment) ++
    (if q.sources.isEmpty then [] else .text " FROM " :: q.sources.fragment) ++
    Fragment.clause " WHERE " (Condition.fragmentAll q.conditions) ++
    orderFragment q.ordering ++ [.window q.limit none]

/-- The statement passes its checks, and its dialect can write its limit. -/
def checkAll (q : Update) : Except BuildError Unit := do
  q.check
  checkLimit "UPDATE" q.resolved q.limit

def draft (q : Update) : Draft where
  dialect := q.resolved
  admission := q.checkAll
  body := q.body
  completion := checkReturning q.resolved q.returned
  tail := returningFragment q.returned ++ commentFragment q.comment

def build (q : Update) : Except Error Statement :=
  q.draft.build

end Update

end QueryKit
