import QueryKit.Text.Blank
import QueryKit.Text.Quoted

/-! References to columns: a path of identifiers, such as schema, table and column, or an expression
that is written as it stands. -/

namespace QueryKit

/-- A reference to a column. -/
inductive Column
  | path (parts : List String)
  | verbatim (expression : String)
deriving DecidableEq

namespace Column

/-- The path whose parts stand between dots. -/
def parse (s : String) : Column :=
  path (Text.split '.' s)

/-- A single identifier, dots and all. -/
def named (name : String) : Column :=
  path [name]

/-- A name under a table, or alone if the table has no name. -/
def qualified (table : Option String) (name : String) : Column :=
  match table with
  | some t => if t.isEmpty then named name else path [t, name]
  | none => named name

/-- The reference has no usable name: some part of its path, or its expression, is blank. -/
def isBlank : Column → Bool
  | path parts => parts.any Text.allBlank
  | verbatim expression => Text.allBlank expression

/-- The reference as an error text shows it. -/
def shown : Column → String
  | path parts => "Ident([" ++ String.intercalate ", " (parts.map Text.quoted) ++ "])"
  | verbatim expression => "Raw(" ++ Text.quoted expression ++ ")"

end Column

end QueryKit
