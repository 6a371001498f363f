import QueryKit.Row.Basic

/-! A set of rows: a queue, from which the rows come in the order in which they went in. -/

namespace QueryKit

/-- Rows with a common header, the next one in front. -/
structure RowSet where
  header : Header
  rows : List (Row header) := []

namespace RowSet

/-- Puts a row behind the others. A refused row leaves the set as it is. -/
def push (s : RowSet) (values : List Value) : Except Error Unit × RowSet :=
  match Row.ofValues s.header values with
  | .ok row => (.ok (), { s with rows := s.rows ++ [row] })
  | .error e => (.error e, s)

/-- Puts a row behind the others in a set that is given away. A refused row takes the set with it. -/
def withRow (s : RowSet) (values : List Value) : Except Error RowSet :=
  match s.push values with
  | (.ok (), s) => .ok s
  | (.error e, _) => .error e

def pop? (s : RowSet) : Option (Row s.header × RowSet) :=
  match s.rows with
  | [] => none
  | row :: rows => some (row, { s with rows })

/-- All rows of a set that is given away. -/
def intoRows (s : RowSet) : List (Row s.header) :=
  s.rows

def withSeparator (s : RowSet) (separator : String) : RowSet where
  header := s.header.withSeparator separator
  rows := s.rows.map (·.withSeparator separator)

/-- A set of rows from their values. -/
def ofValues (h : Header) (rows : List (List Value)) : Except Error RowSet := do
  pure ⟨h, ← rows.mapM (Row.ofValues h)⟩

end RowSet

end QueryKit
