import QueryKit.Clause
import QueryKit.Draft
import QueryKit.Settings
import QueryKit.Table

/-! DELETE statements. Of several joined tables, the targets name those that lose rows. -/

namespace QueryKit

/-- A DELETE statement in the making. -/
structure Delete where
  settings : Settings := {}
  dialect : Option Dialect := none
  targets : List Column := []
  tables : Tables := []
  joins : List Join := []
  conditions : List Condition := []
  ordering : List Column := []
  limit : Option UInt64 := none
  returned : List Column := []
  comment : Option String := none

namespace Delete

def withSettings (q : Delete) (s : Settings) : Delete := { q with settings := s }

def withDialect (q : Delete) (d : Dialect) : Delete := { q with dialect := some d }

def target (q : Delete) (cs : List Column) : Delete := { q with targets := q.targets ++ cs }

def table (q : Delete) (t : Table) : Delete := { q with tables := q.tables.add t }

def join (q : Delete) (j : Join) : Delete := { q with joins := q.joins ++ [j] }

def filter (q : Delete) (c : Condition) : Delete := { q with conditions := q.conditions ++ [c] }

def orderBy (q : Delete) (c : Column) : Delete := { q with ordering := q.ordering ++ [c] }

def withLimit (q : Delete) (n : UInt64) : Delete := { q with limit := some n }

/-- Asks for columns of the removed rows. -/
def returning (q : Delete) (cs : List Column) : Delete := { q with returned := q.returned ++ cs }

def withComment (q : Delete) (text : String) : Delete := { q with comment := some text }

/-- The dialect that the statement is written in. -/
def resolved (q : Delete) : Dialect :=
  q.settings.resolve q.dialect

/-- The statement has a table, and its conditions pass their checks. -/
def check (q : Delete) : Except BuildError Unit := do
  if q.tables.isEmpty then throw .deleteWithoutTable
  Join.checkAll q.joins
  Condition.checkAll q.conditions

def body (q : Delete) : Fragment :=
  .text "DELETE " ::
    (if q.targets.isEmpty then [] else Column.listFragment q.targets ++ [.text " "]) ++
    .text "FROM " :: q.tables.fragment ++ q.joins.flatMap Join.fragment ++
    Fragment.clause " WHERE " (Condition.fragmentAll q.conditions) ++
    orderFragment q.ordering ++ [.window q.limit none]

/-- The statement passes its checks, and its dialect can write its limit. -/
def checkAll (q : Delete) : Except BuildError Unit := do
  q.check
  checkLimit "DELETE" q.resolved q.limit

def draft (q : Delete) : Draft where
  dialect := q.resolved
  admission := q.checkAll
  body := q.body
  completion := checkReturning q.resolved q.returned
  tail := returningFragment q.returned ++ commentFragment q.comment

def build (q : Delete) : Except Error Statement :=
  q.draft.build

end Delete

end QueryKit
