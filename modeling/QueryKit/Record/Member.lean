import QueryKit.Row.Reader

/-! Record types with the types of their fields. The members of a record say which columns it has
and how it is read, so that a record reads the columns that it lists. -/

namespace QueryKit

/-- What is read from a row: a value of a column type, or a record of such. -/
inductive Reading
  | value (type : ColumnType) (carrier : type.Carrier)
  | record (fields : List (String × Reading))

/-- A field of a record type and its source. -/
inductive Member
  | column (field name : String) (type : ColumnType)
  | embedded (field name : String) (members : List Member)
  | inline (field : String) (members : List Member)
  /-- A field without a source, which gets a fixed value. -/
  | skipped (field : String) (fixed : Reading)

namespace Member

mutual

def columns : Member → List Field
  | column _ name _ => [.column name]
  | embedded _ name members => [.embedded name (allColumns members)]
  | inline _ members => [.inline (allColumns members)]
  | skipped _ _ => []

def allColumns : List Member → List Field
  | [] => []
  | m :: ms => columns m ++ allColumns ms

end

mutual

/-- Reads a field from the columns within a scope. -/
def read {h : Header} (row : Row h) (scope : String) : Member → Except Error (String × Reading)
  | column field name type => do
    let carrier ← row.column type (row.scopedName scope name)
    pure (field, .value type carrier)
  | embedded field name members => do
    let fields ← readAll row (row.scopedName scope name) members
    pure (field, .record fields)
  | inline field members => do
    let fields ← readAll row scope members
    pure (field, .record fields)
  | skipped field fixed => .ok (field, fixed)

def readAll {h : Header} (row : Row h) (scope : String) :
    List Member → Except Error (List (String × Reading))
  | [] => .ok []
  | m :: ms => do
    let first ← read row scope m
    let rest ← readAll row scope ms
    pure (first :: rest)

end

end Member

def RowReader.record (members : List Member) : RowReader Reading where
  readWithin row scope := do
    let fields ← Member.readAll row scope members
    pure (.record fields)

end QueryKit
