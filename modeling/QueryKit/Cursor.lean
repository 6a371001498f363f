import QueryKit.RowSet

/-! Cursors, from which rows are taken one after the other. A cursor is given by what its remaining
steps yield: a row or an error each, and then nothing more. It may tell how many rows remain, which
need not be true. -/

namespace QueryKit

/-- A source of rows. -/
structure Cursor where
  header : Header
  steps : List (Except Error (Row header))
  /-- The number of rows that the cursor tells of its remaining steps. -/
  told : List (Except Error (Row header)) → Option Nat := fun _ => none

namespace Cursor

/-- The cursor over a set of rows. -/
def ofRows (s : RowSet) : Cursor where
  header := s.header
  steps := s.rows.map .ok
  told := fun steps => some steps.length

/-- The cursor over a set of rows whose step after the given number of steps fails. The step that
finds no more rows counts as one. -/
def failingAfter (s : RowSet) (n : Nat) (e : Error) : Cursor where
  header := s.header
  steps :=
    if n ≤ s.rows.length then (s.rows.take n).map .ok ++ .error e :: (s.rows.drop n).map .ok
    else s.rows.map .ok

/-- The number of remaining rows, if the cursor tells it. -/
def sizeHint (c : Cursor) : Option Nat :=
  c.told c.steps

/-- The number of rows that can still be taken. -/
def left (c : Cursor) : Nat :=
  (c.steps.filter fun step => step.isOk).length

end Cursor

end QueryKit
