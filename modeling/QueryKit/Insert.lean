import QueryKit.Clause
import QueryKit.Draft
import QueryKit.Settings
import QueryKit.Table

/-! INSERT statements. Rows are given whole, or one row is given column by column; without any row
the statement is a template with a placeholder for every column. -/

namespace QueryKit

/-- The leading words of an INSERT statement. -/
inductive InsertVerb
  | insert
  | insertIgnore
  | replace
deriving DecidableEq

/-- The words themselves. -/
def InsertVerb.keyword : InsertVerb → String
  | .insert => "INSERT"
  | .insertIgnore => "INSERT IGNORE"
  | .replace => "REPLACE"

/-- An INSERT statement in the making. -/
structure Insert where
  settings : Settings := {}
  dialect : Option Dialect := none
  verb : InsertVerb := .insert
  target : Option Table := none
  targetColumns : List Column := []
  rows : List (List Value) := []
  /-- Some value was given with its column. -/
  byColumn : Bool := false
  /-- Some row was given whole. -/
  byRow : Bool := false
  returned : List Column := []
  comment : Option String := none

namespace Insert

def withSettings (q : Insert) (s : Settings) : Insert := { q with settings := s }

def withDialect (q : Insert) (d : Dialect) : Insert := { q with dialect := some d }

def into (q : Insert) (t : Table) : Insert := { q with target := some t }

/-- Passes over rows that are there already. -/
def ignore (q : Insert) : Insert := { q with verb := .insertIgnore }

/-- Replaces rows that are there already. -/
def replace (q : Insert) : Insert := { q with verb := .replace }

def columns (q : Insert) (cs : List Column) : Insert :=
  { q with targetColumns := q.targetColumns ++ cs }

def values (q : Insert) (row : List Value) : Insert :=
  { q with rows := q.rows ++ [row], byRow := true }

/-- Adds a value to the first row, starting one if there is none. -/
def extendFirst (v : Value) : List (List Value) → List (List Value)
  | [] => [[v]]
  | row :: rows => (row ++ [v]) :: rows

def assign (q : Insert) (column : Column) (v : Value) : Insert :=
  { q with
    byColumn := true
    targetColumns := q.targetColumns ++ [column]
    rows := extendFirst v q.rows }

/-- Asks for columns of the new rows. -/
def returning (q : Insert) (cs : List Column) : Insert := { q with returned := q.returned ++ cs }

def withComment (q : Insert) (text : String) : Insert := { q with comment := some text }

/-- The dialect that the statement is written in. -/
def resolved (q : Insert) : Dialect :=
  q.settings.resolve q.dialect

/-- The number of values in a row: one for each column, or as many as the first row has. -/
def arity (q : Insert) : Nat :=
  if q.targetColumns.isEmpty then (q.rows.head?.map List.length).getD 0 else q.targetColumns.length

/-- Rows from the given number on have the right length. -/
def checkRows (arity number : Nat) : List (List Value) → Except BuildError Unit
  | [] => .ok ()
  | row :: rows =>
    if row.length = arity then checkRows arity (number + 1) rows
    else .error (.insertRow number row.length arity)

/-- The statement has a table, one style of giving values, usable columns and rows of one length. -/
def check (q : Insert) : Except BuildError Unit := do
  match q.target with
  | none => throw .insertWithoutTable
  | some t => if Text.allBlank t.name then throw .insertWithoutTable
  if q.byColumn && q.byRow then throw .insertMixed
  q.targetColumns.forM Column.check
  if q.arity = 0 then throw .insertEmpty
  checkRows q.arity 1 q.rows

/-- Fragments with commas between them, in parentheses. -/
def tuple (fragments : List Fragment) : Fragment :=
  .text "(" :: Fragment.separated ", " fragments ++ [.text ")"]

/-- The tokens of the rows, or of the template. -/
def rowsFragment (q : Insert) : Fragment :=
  if q.rows.isEmpty then tuple ((List.range q.arity).map fun i => [.marker (i + 1)])
  else Fragment.separated ", " (q.rows.map fun row => tuple (row.map fun v => [.operand v]))

def body (q : Insert) : Fragment :=
  .text (q.verb.keyword ++ " INTO ") :: (q.target.map Table.fragment).getD [] ++
    (if q.targetColumns.isEmpty then []
    else .text " (" :: Column.listFragment q.targetColumns ++ [.text ")"]) ++
    .text " VALUES " :: q.rowsFragment

def draft (q : Insert) : Draft where
  dialect := q.resolved
  admission := q.check
  body := q.body
  completion := checkReturning q.resolved q.returned
  tail := returningFragment q.returned ++ commentFragment q.comment

def build (q : Insert) : Except Error Statement :=
  q.draft.build

end Insert

end QueryKit
