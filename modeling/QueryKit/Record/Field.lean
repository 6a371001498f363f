import QueryKit.Column

/-! The columns of a record type: plain columns, embedded records, whose columns carry the record's
name in front, and inline records, whose columns do not. -/

namespace QueryKit

/-- A column or a record inside a record. -/
inductive Field
  | column (name : String)
  | embedded (name : String) (fields : List Field)
  | inline (fields : List Field)

/-- A name within a scope; a scope without a name leaves it as it is. -/
def scopedName (scope separator name : String) : String :=
  if scope.isEmpty then name else scope ++ separator ++ name

namespace Field

mutual

/-- The names of a field's columns in a result within a scope. -/
def names (separator scope : String) : Field → List String
  | column name => [scopedName scope separator name]
  | embedded name fields => allNames separator (scopedName scope separator name) fields
  | inline fields => allNames separator scope fields

/-- The names of the columns of several fields. -/
def allNames (separator scope : String) : List Field → List String
  | [] => []
  | f :: fs => names separator scope f ++ allNames separator scope fs

end

/-- References to the columns of a record under a table. -/
def columns (fields : List Field) (table separator : String) : List Column :=
  (allNames separator "" fields).map (Column.qualified (some table))

end Field

end QueryKit
