import QueryKit.Column
import QueryKit.Dialect
import QueryKit.Page
import QueryKit.Value.Basic

/-! Fragments of a statement, free of any dialect: a list of tokens. A dialect gives a fragment its
text, where placeholders are numbered from the operands before them, and its operands in the order
of their placeholders. -/

namespace QueryKit

/-- A piece of a statement. -/
inductive Token
  /-- A text that is the same in every dialect. -/
  | text (s : String)
  /-- An identifier to be quoted. -/
  | name (s : String)
  /-- A value to be bound, which leaves its placeholder. -/
  | operand (v : Value)
  /-- A placeholder by its number, to which nothing is bound. -/
  | marker (number : Nat)
  /-- A predicate that never holds. -/
  | never
  /-- A predicate that always holds. -/
  | always
  /-- The clause for a limit and an offset. -/
  | window (limit offset : Option UInt64)
  /-- The clause for a page, with its two numbers bound. -/
  | page (p : Page)

/-- A number of rows as a value, at most the greatest one. -/
def Value.ofCount (n : UInt64) : Value :=
  .int (Int64.ofInt (min n.toNat 9223372036854775807 : Nat))

namespace Token

def isVoid : Token → Bool
  | text s => s.isEmpty
  | _ => false

def operands (d : Dialect) : Token → List Value
  | operand v => [v]
  | page p =>
    if d.offsetFetch then [.ofCount p.offset, .ofCount p.limit]
    else [.ofCount p.limit, .ofCount p.offset]
  | _ => []

/-- The text of the token after a number of operands. -/
def render (d : Dialect) (bound : Nat) : Token → String
  | text s => s
  | name s => d.quote s
  | operand _ => d.placeholder (bound + 1)
  | marker n => d.placeholder n
  | never => d.never
  | always => d.always
  | window limit offset => d.window limit offset
  | page _ =>
    if d.offsetFetch then
      " OFFSET " ++ d.placeholder (bound + 1) ++ " ROWS FETCH NEXT " ++ d.placeholder (bound + 2) ++
        " ROWS ONLY"
    else " LIMIT " ++ d.placeholder (bound + 1) ++ " OFFSET " ++ d.placeholder (bound + 2)

end Token

/-- A piece of a statement made of tokens. -/
abbrev Fragment := List Token

namespace Fragment

/-- No token writes anything. A condition is left out for this or for having no text, which is the
same in dialects whose placeholders and constant predicates are not empty. -/
def isVoid (f : Fragment) : Bool :=
  f.all Token.isVoid

/-- The operands of the fragment in the order of their placeholders. -/
def operands (d : Dialect) (f : Fragment) : List Value :=
  f.flatMap (Token.operands d)

/-- The text of the fragment after a number of operands. -/
def render (d : Dialect) (bound : Nat) : Fragment → String
  | [] => ""
  | t :: ts => t.render d bound ++ render d (bound + (t.operands d).length) ts

def separated (separator : String) (fragments : List Fragment) : Fragment :=
  List.intercalate [.text separator] fragments

/-- The fragment behind a keyword, or nothing if it writes nothing. -/
def clause (keyword : String) (f : Fragment) : Fragment :=
  if f.isVoid then [] else .text keyword :: f

end Fragment

/-- The tokens of a path; a star at its end is not quoted. -/
def Column.pathFragment : List String → Fragment
  | [] => []
  | [last] => [if last = "*" then .text "*" else .name last]
  | part :: rest => .name part :: .text "." :: pathFragment rest

def Column.fragment : Column → Fragment
  | path parts => pathFragment parts
  | verbatim expression => [.text expression]

def Column.listFragment (columns : List Column) : Fragment :=
  Fragment.separated ", " (columns.map Column.fragment)

end QueryKit
