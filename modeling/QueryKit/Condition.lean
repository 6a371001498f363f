import QueryKit.Error
import QueryKit.Fragment

/-! Conditions as trees of predicates, and their tokens. A group splices in the groups of its own
kind below it, drops what writes nothing, stands without parentheses around a single part, and
writes nothing without parts. -/

namespace QueryKit

/-- A comparison of two operands. -/
inductive Comparison
  | eq
  | ne
  | gt
  | ge
  | lt
  | le
  | like
  | notLike
deriving DecidableEq

def Comparison.ofName? : String → Option Comparison
  | "eq" => some .eq
  | "ne" => some .ne
  | "gt" => some .gt
  | "gte" => some .ge
  | "lt" => some .lt
  | "lte" => some .le
  | "like" => some .like
  | "not_like" => some .notLike
  | _ => none

/-- The operator of a comparison; one made of words has spaces around it. -/
def Comparison.symbol : Comparison → String
  | .eq => "="
  | .ne => "<>"
  | .gt => ">"
  | .ge => ">="
  | .lt => "<"
  | .le => "<="
  | .like => " LIKE "
  | .notLike => " NOT LIKE "

/-- How the parts of a group are joined. -/
inductive Junction
  | and
  | or
deriving DecidableEq

/-- The text between two parts of a group. -/
def Junction.separator : Junction → String
  | .and => " AND "
  | .or => " OR "

/-- A condition. -/
inductive Condition
  /-- A column compared with a value. -/
  | compare (column : Column) (op : Comparison) (value : Value)
  /-- Two columns compared. -/
  | compareColumns (left : Column) (op : Comparison) (right : Column)
  /-- A column that has no value, or that has one. -/
  | missing (column : Column) (negated : Bool)
  /-- A column that is one of the values, or none of them. -/
  | member (column : Column) (values : List Value) (negated : Bool)
  /-- A column that lies between two values, or outside of them. -/
  | between (column : Column) (low high : Value) (negated : Bool)
  /-- All parts, or some part. -/
  | group (junction : Junction) (parts : List Condition)
  /-- The contrary. -/
  | negation (part : Condition)
  /-- A text that is written as it stands. -/
  | verbatim (text : String)
  /-- A text with a question mark for each value. -/
  | template (text : String) (values : List Value)

namespace Condition

def equals (column : Column) (value : Value) : Condition :=
  compare column .eq value

def equalColumns (left right : Column) : Condition :=
  compareColumns left .eq right

end Condition

/-- The texts between the marks of a template, with an operand at each mark that has a value. -/
def Fragment.ofTemplate : List (List Char) → List Value → Fragment
  | [], _ => []
  | [piece], _ => [.text (String.ofList piece)]
  | piece :: pieces, [] => .text (String.ofList piece) :: .text "?" :: ofTemplate pieces []
  | piece :: pieces, v :: vs =>
    .text (String.ofList piece) :: .operand v :: ofTemplate pieces vs

/-- The operands of a list with commas between them. -/
def Fragment.ofValues (values : List Value) : Fragment :=
  Fragment.separated ", " (values.map fun v => [.operand v])

/-- The parts of a group as one fragment. -/
def Fragment.grouped (junction : Junction) (parts : List Fragment) : Fragment :=
  match parts.filter fun f => !f.isVoid with
  | [] => []
  | [part] => part
  | parts => .text "(" :: Fragment.separated junction.separator parts ++ [.text ")"]

/-- The contrary of a fragment that writes something. -/
def Fragment.negated (f : Fragment) : Fragment :=
  if f.isVoid then [] else .text "NOT (" :: f ++ [.text ")"]

/-- What a condition gives to the group around it: a finished fragment, or the parts of a group that
may still be spliced. -/
inductive Piece
  | whole (f : Fragment)
  | parts (junction : Junction) (fragments : List Fragment)

def Piece.close : Piece → Fragment
  | whole f => f
  | parts junction fragments => Fragment.grouped junction fragments

def Piece.under (junction : Junction) : Piece → List Fragment
  | whole f => [f]
  | parts own fragments =>
    if own = junction then fragments else [Fragment.grouped own fragments]

namespace Condition

mutual

def piece : Condition → Piece
  | compare column op value => .whole (column.fragment ++ [.text op.symbol, .operand value])
  | compareColumns left op right => .whole (left.fragment ++ .text op.symbol :: right.fragment)
  | missing column negated =>
    .whole (column.fragment ++ [.text (if negated then " IS NOT NULL" else " IS NULL")])
  | member _ [] negated => .whole [if negated then .always else .never]
  | member column (v :: vs) negated =>
    .whole (column.fragment ++ .text (if negated then " NOT IN (" else " IN (") ::
      Fragment.ofValues (v :: vs) ++ [.text ")"])
  | between column low high negated =>
    .whole (column.fragment ++
      [.text (if negated then " NOT BETWEEN " else " BETWEEN "), .operand low, .text " AND ",
        .operand high])
  | group junction parts => .parts junction (pieces junction parts)
  | negation part => .whole (Fragment.negated (piece part).close)
  | verbatim text => .whole [.text (Text.trim text)]
  | template text values => .whole (Fragment.ofTemplate (Text.splitAt '?' text.toList) values)

def pieces (junction : Junction) : List Condition → List Fragment
  | [] => []
  | c :: cs => (piece c).under junction ++ pieces junction cs

end

def fragment (c : Condition) : Fragment :=
  c.piece.close

/-- The tokens of several conditions that all have to hold. -/
def fragmentAll (cs : List Condition) : Fragment :=
  Fragment.grouped .and (pieces .and cs)

mutual

/-- The condition is made of empty groups, their contraries and blank texts. -/
def isEmpty : Condition → Bool
  | group _ parts => allEmpty parts
  | negation part => isEmpty part
  | verbatim text => Text.allBlank text
  | compare _ _ _ | compareColumns _ _ _ | missing _ _ | member _ _ _ | between _ _ _ _
  | template _ _ => false

def allEmpty : List Condition → Bool
  | [] => true
  | c :: cs => isEmpty c && allEmpty cs

end

end Condition

def Column.check (c : Column) : Except BuildError Unit :=
  if c.isBlank then .error (.blankColumn c) else .ok ()

namespace Condition

/-- A template has as many marks as values. -/
def checkTemplate (text : String) (values : List Value) : Except BuildError Unit :=
  let markers := text.toList.count '?'
  if markers = values.length then .ok () else .error (.markerCount text markers values.length)

mutual

/-- Every column of the condition has a usable name, and every template as many marks as values. -/
def check : Condition → Except BuildError Unit
  | compare column _ _ | missing column _ | member column _ _ | between column _ _ _ =>
    column.check
  | compareColumns left _ right => do
    left.check
    right.check
  | group _ parts => checkAll parts
  | negation part => check part
  | verbatim _ => .ok ()
  | template text values => checkTemplate text values

/-- Every condition of a list passes its check. -/
def checkAll : List Condition → Except BuildError Unit
  | [] => .ok ()
  | c :: cs => do
    check c
    checkAll cs

end

end Condition

end QueryKit
