import QueryKit.Column
import QueryKit.Duration
import QueryKit.Value.ColumnType

/-! What can go wrong when a statement is assembled, run, or its rows are bound. Errors are causes;
their wording is in one place. -/

namespace QueryKit

/-- Why a statement cannot be assembled. -/
inductive BuildError
  | selectWithoutTable
  | selectWithoutColumn
  | insertWithoutTable
  | insertMixed
  | insertEmpty
  | insertRow (row found expected : Nat)
  | updateWithoutTable
  | updateWithoutAssignment
  | deleteWithoutTable
  | limitUnsupported (verb dialect : String)
  | returningUnsupported (dialect : String)
  | blankColumn (column : Column)
  | markerCount (template : String) (markers values : Nat)
  | unknownDialect (name : String)
  | other (text : String)
deriving DecidableEq

def BuildError.message : BuildError → String
  | .selectWithoutTable => "SELECT requires at least one FROM table"
  | .selectWithoutColumn => "SELECT requires at least one column"
  | .insertWithoutTable => "INSERT requires a target table"
  | .insertMixed =>
    "INSERT cannot mix set() with values(); use columns() and values() for several rows"
  | .insertEmpty => "INSERT requires at least one column or value"
  | .insertRow row found expected => s!"INSERT row {row} has {found} values, expected {expected}"
  | .updateWithoutTable => "UPDATE requires a table"
  | .updateWithoutAssignment => "UPDATE requires at least one SET value"
  | .deleteWithoutTable => "DELETE requires a FROM table"
  | .limitUnsupported verb dialect => s!"{verb} ... LIMIT is not supported by the {dialect} dialect"
  | .returningUnsupported dialect => s!"RETURNING is not supported by the {dialect} dialect"
  | .blankColumn column => "empty column name in " ++ column.shown
  | .markerCount template markers values =>
    s!"template `{template}` has {markers} `?` markers but {values} values"
  | .unknownDialect name => s!"unknown SQL dialect '{name}'"
  | .other text => text

/-- An error of the library. -/
inductive Error
  | build (cause : BuildError)
  | connection (text : String)
  | query (text : String)
  | notFound (text : String)
  | decode (column : String) (cause : DecodeError)
  | timeout (limit : Duration)
  | other (text : String)
deriving DecidableEq

namespace Error

def kind : Error → String
  | build _ => "Build"
  | connection _ => "Connection"
  | query _ => "Query"
  | notFound _ => "NotFound"
  | decode _ _ => "Decode"
  | timeout _ => "Timeout"
  | other _ => "Other"

def message : Error → String
  | build cause => "Build error: " ++ cause.message
  | connection text => "Connection error: " ++ text
  | query text => "Query error: " ++ text
  | notFound text => "Not found: " ++ text
  | decode column cause => s!"Decode error on column '{column}': {cause.message}"
  | timeout limit => "Query timeout after " ++ limit.text
  | other text => text

def isBuild : Error → Bool
  | build _ => true
  | _ => false

def isNotFound : Error → Bool
  | notFound _ => true
  | _ => false

def isDecode : Error → Bool
  | decode _ _ => true
  | _ => false

def isTimeout : Error → Bool
  | timeout _ => true
  | _ => false

/-- The error for a query without rows where one is needed. -/
def noRows : Error :=
  notFound "query returned no rows"

end Error

end QueryKit
