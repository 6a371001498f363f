import QueryKit.Row.Basic

/-! Readers of rows. A single value is read from the first column and several values from as many
columns in order; records find their columns by name. -/

namespace QueryKit

/-- A way to read a row, or the columns of a row within a scope. -/
structure RowReader (α : Type) where
  readWithin : {h : Header} → Row h → String → Except Error α

def RowReader.read {α : Type} (reader : RowReader α) {h : Header} (row : Row h) : Except Error α :=
  reader.readWithin row ""

/-- A value for each of several types. -/
@[reducible] def Tuple : List ColumnType → Type
  | [] => Unit
  | [t] => t.Carrier
  | t :: ts => t.Carrier × Tuple ts

/-- How to compare carriers, for the types whose values may be keys. -/
def ColumnType.keyEq? : (t : ColumnType) → Option (DecidableEq t.Carrier)
  | bool => some (inferInstanceAs (DecidableEq Bool))
  | int w => some (inferInstanceAs (DecidableEq w.Number))
  | text => some (inferInstanceAs (DecidableEq String))
  | bytes => some (inferInstanceAs (DecidableEq Bytes))
  | uuid => some (inferInstanceAs (DecidableEq Uuid))
  | date => some (inferInstanceAs (DecidableEq Date))
  | time => some (inferInstanceAs (DecidableEq TimeOfDay))
  | timestamp => some (inferInstanceAs (DecidableEq Timestamp))
  | moment => some (inferInstanceAs (DecidableEq Moment))
  | option t =>
    match t.keyEq? with
    | some _ => some (inferInstanceAs (DecidableEq (Option t.Carrier)))
    | none => none
  | value | single | double | json => none

/-- How to compare tuples of such types. -/
def Tuple.keyEq? : (ts : List ColumnType) → Option (DecidableEq (Tuple ts))
  | [] => some (inferInstanceAs (DecidableEq Unit))
  | [t] => t.keyEq?
  | t :: t' :: ts =>
    match t.keyEq?, keyEq? (t' :: ts) with
    | some _, some _ => some (inferInstanceAs (DecidableEq (t.Carrier × Tuple (t' :: ts))))
    | _, _ => none

/-- Reads columns in order, from the given number on. -/
def Row.tuple {h : Header} (row : Row h) : (ts : List ColumnType) → Nat → Except Error (Tuple ts)
  | [], _ => .ok ()
  | [t], n => row.index t n
  | t :: t' :: ts, n => do
    let first ← row.index t n
    let rest ← row.tuple (t' :: ts) (n + 1)
    pure (first, rest)

namespace RowReader

/-- Reads the first columns; none at all if there are no types. -/
def tuple (ts : List ColumnType) : RowReader (Tuple ts) where
  readWithin row _ := row.tuple ts 0

def scalar (t : ColumnType) : RowReader t.Carrier where
  readWithin row _ := row.index t 0

end RowReader

end QueryKit
