import QueryKit.Clause
import QueryKit.Draft
import QueryKit.Record.Field
import QueryKit.Settings
import QueryKit.Table

/-! SELECT statements, assembled clause by clause, and the statements that count their rows. -/

namespace QueryKit

/-- A selected column and the name it gets in the result. -/
structure Selection where
  column : Column
  aliasName : Option String := none
deriving DecidableEq

def Selection.fragment (s : Selection) : Fragment :=
  s.column.fragment ++
    match s.aliasName with
    | some aliasName => [.text " AS ", .name aliasName]
    | none => []

/-- A direction of ordering. -/
inductive Direction
  | ascending
  | descending
deriving DecidableEq

/-- A column that rows are ordered by. -/
structure Ordering.Key where
  column : Column
  direction : Option Direction := none
deriving DecidableEq

def Ordering.Key.fragment (k : Ordering.Key) : Fragment :=
  k.column.fragment ++
    match k.direction with
    | some .ascending => [.text " ASC"]
    | some .descending => [.text " DESC"]
    | none => []

/-- A SELECT statement in the making. -/
structure Select where
  settings : Settings := {}
  dialect : Option Dialect := none
  isDistinct : Bool := false
  selections : List Selection := []
  tables : Tables := []
  joins : List Join := []
  conditions : List Condition := []
  grouping : List Column := []
  groupConditions : List Condition := []
  ordering : List Ordering.Key := []
  limit : Option UInt64 := none
  offset : Option UInt64 := none
  /-- The tokens that take the place of limit and offset. -/
  paging : Option Fragment := none
  locks : Bool := false
  comment : Option String := none

namespace Select

def withSettings (q : Select) (s : Settings) : Select := { q with settings := s }

def withDialect (q : Select) (d : Dialect) : Select := { q with dialect := some d }

def columns (q : Select) (cs : List Column) : Select :=
  { q with selections := q.selections ++ cs.map fun c => ⟨c, none⟩ }

/-- Adds a selected column with a name of its own in the result. -/
def columnAs (q : Select) (c : Column) (aliasName : String) : Select :=
  { q with selections := q.selections ++ [⟨c, some aliasName⟩] }

/-- Adds the columns of a record under a table, named with the separator of the present settings. -/
def record (q : Select) (fields : List Field) (table : String := "") : Select :=
  q.columns (Field.columns fields table q.settings.separator)

/-- Selects rows that differ from each other. -/
def distinct (q : Select) : Select := { q with isDistinct := true }

def table (q : Select) (t : Table) : Select := { q with tables := q.tables.add t }

def join (q : Select) (j : Join) : Select := { q with joins := q.joins ++ [j] }

def filter (q : Select) (c : Condition) : Select := { q with conditions := q.conditions ++ [c] }

/-- Groups rows by columns, in place of earlier ones. -/
def groupBy (q : Select) (cs : List Column) : Select := { q with grouping := cs }

def filterGroups (q : Select) (c : Condition) : Select :=
  { q with groupConditions := q.groupConditions ++ [c] }

def orderBy (q : Select) (c : Column) (direction : Option Direction := none) : Select :=
  { q with ordering := q.ordering ++ [⟨c, direction⟩] }

def withLimit (q : Select) (n : UInt64) : Select := { q with limit := some n }

def withOffset (q : Select) (n : UInt64) : Select := { q with offset := some n }

/-- Replaces limit and offset by tokens. -/
def paginate (q : Select) (f : Fragment) : Select := { q with paging := some f }

/-- Replaces limit and offset by a page. -/
def page (q : Select) (number size : UInt64) : Select := q.paginate [.page (.of number size)]

/-- Locks the selected rows. -/
def forUpdate (q : Select) : Select := { q with locks := true }

def withComment (q : Select) (text : String) : Select := { q with comment := some text }

/-- The dialect that the statement is written in. -/
def resolved (q : Select) : Dialect :=
  q.settings.resolve q.dialect

/-- The conditions of joins, rows and groups pass their checks. -/
def checkConditions (q : Select) : Except BuildError Unit := do
  Join.checkAll q.joins
  Condition.checkAll q.conditions
  Condition.checkAll q.groupConditions

/-- The statement has a table and a column, and its conditions pass their checks. -/
def check (q : Select) : Except BuildError Unit := do
  if q.tables.isEmpty then throw .selectWithoutTable
  if q.selections.isEmpty then throw .selectWithoutColumn
  q.checkConditions

def selectionFragment (q : Select) : Fragment :=
  (if q.isDistinct then [.text "DISTINCT "] else []) ++
    Fragment.separated ", " (q.selections.map Selection.fragment)

/-- The tokens from the tables to the conditions on groups. -/
def sourceFragment (q : Select) : Fragment :=
  .text " FROM " :: q.tables.fragment ++ q.joins.flatMap Join.fragment ++
    Fragment.clause " WHERE " (Condition.fragmentAll q.conditions) ++
    (if q.grouping.isEmpty then [] else .text " GROUP BY " :: Column.listFragment q.grouping) ++
    Fragment.clause " HAVING " (Condition.fragmentAll q.groupConditions)

def orderingFragment (q : Select) : Fragment :=
  if q.ordering.isEmpty then []
  else .text " ORDER BY " :: Fragment.separated ", " (q.ordering.map Ordering.Key.fragment)

/-- The tokens behind the conditions on groups. -/
def tailFragment (q : Select) : Fragment :=
  q.orderingFragment ++ q.paging.getD [.window q.limit q.offset] ++
    (if q.locks then [.text " FOR UPDATE"] else []) ++ commentFragment q.comment

def draft (q : Select) : Draft where
  dialect := q.resolved
  admission := q.check
  body := .text "SELECT " :: q.selectionFragment ++ q.sourceFragment ++ q.tailFragment

def build (q : Select) : Except Error Statement :=
  q.draft.build

/-- The rows are counted in a statement around this one: they are distinct or grouped. -/
def countsAround (q : Select) : Bool :=
  q.isDistinct || !q.grouping.isEmpty || !q.groupConditions.isEmpty

/-- The statement has a table, and its conditions pass their checks. -/
def checkCount (q : Select) : Except BuildError Unit := do
  if q.tables.isEmpty then throw .selectWithoutTable
  q.checkConditions

/-- The draft of the statement that counts the rows. -/
def countDraft (q : Select) : Draft where
  dialect := q.resolved
  admission := q.checkCount
  body :=
    (if q.countsAround then
      .text "SELECT COUNT(*) FROM (SELECT " ::
        (if q.isDistinct && !q.selections.isEmpty then q.selectionFragment else [.text "1"]) ++
        q.sourceFragment ++ [.text ") AS t"]
    else .text "SELECT COUNT(*)" :: q.sourceFragment) ++ commentFragment q.comment

/-- A statement that counts the rows this one selects, without regard to order, limit and offset. -/
def count (q : Select) : Except Error Statement :=
  q.countDraft.build

end Select

end QueryKit
