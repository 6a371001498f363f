import QueryKit.Condition

/-! Tables with their aliases, lists of tables in which every name stands once, and joins. -/

namespace QueryKit

/-- A table and the name that a statement gives it. -/
structure Table where
  name : String
  aliasName : Option String := none
deriving DecidableEq

namespace Table

/-- The text equals the keyword in either case. -/
def isAs (s : String) : Bool :=
  s.toList.map Char.toLower == ['a', 's']

/-- Reads a table, with an alias behind it or behind a keyword. -/
def parse (s : String) : Table :=
  match Text.words s with
  | [name, aliasName] => ⟨name, some aliasName⟩
  | [name, keyword, aliasName] =>
    if isAs keyword then ⟨name, some aliasName⟩ else ⟨Text.trim s, none⟩
  | _ => ⟨Text.trim s, none⟩

/-- The name by which other clauses refer to the table. -/
def qualifier (t : Table) : String :=
  t.aliasName.getD t.name

def fragment (t : Table) : Fragment :=
  (Column.parse t.name).fragment ++
    match t.aliasName with
    | some aliasName => [.text " AS ", .name aliasName]
    | none => []

end Table

/-- Tables in the order in which their names were first added. -/
abbrev Tables := List Table

namespace Tables

/-- Adds a table. A name that is there already keeps its place, and its alias unless there is a new
one. -/
def add (t : Table) : Tables → Tables
  | [] => [t]
  | held :: rest =>
    if held.name = t.name then ⟨held.name, t.aliasName.or held.aliasName⟩ :: rest
    else held :: add t rest

def fragment (ts : Tables) : Fragment :=
  Fragment.separated ", " (ts.map Table.fragment)

end Tables

/-- A kind of join. -/
inductive JoinKind
  | inner
  | left
  | leftOuter
  | right
  | rightOuter
  | full
  | fullOuter
  | plain
deriving DecidableEq

/-- The kind of join with a name. -/
def JoinKind.ofName? : String → Option JoinKind
  | "inner" => some .inner
  | "left" => some .left
  | "left_outer" => some .leftOuter
  | "right" => some .right
  | "right_outer" => some .rightOuter
  | "full" => some .full
  | "full_outer" => some .fullOuter
  | "plain" => some .plain
  | _ => none

def JoinKind.keyword : JoinKind → String
  | .inner => "INNER JOIN"
  | .left => "LEFT JOIN"
  | .leftOuter => "LEFT OUTER JOIN"
  | .right => "RIGHT JOIN"
  | .rightOuter => "RIGHT OUTER JOIN"
  | .full => "FULL JOIN"
  | .fullOuter => "FULL OUTER JOIN"
  | .plain => "JOIN"

/-- A table joined on conditions that all have to hold. -/
structure Join where
  kind : JoinKind
  table : Table
  conditions : List Condition := []

namespace Join

/-- The join of a table on two equal columns. -/
def onColumns (kind : JoinKind) (table : Table) (left right : Column) : Join :=
  ⟨kind, table, [.equalColumns left right]⟩

/-- Every condition of the join passes its check. -/
def check (j : Join) : Except BuildError Unit :=
  Condition.checkAll j.conditions

/-- The tokens of a join, with the space before it. -/
def fragment (j : Join) : Fragment :=
  .text (" " ++ j.kind.keyword ++ " ") :: j.table.fragment ++
    Fragment.clause " ON " (Condition.fragmentAll j.conditions)

/-- Every condition of every join passes its check. -/
def checkAll (js : List Join) : Except BuildError Unit :=
  js.forM check

end Join

end QueryKit
