import QueryKit.Error
import QueryKit.Fragment

/-! Clauses that several kinds of statement share. -/

namespace QueryKit

/-- The characters of a comment, where a space keeps a star from closing it. -/
def commentChars : List Char → List Char
  | '*' :: '/' :: rest => '*' :: ' ' :: '/' :: commentChars rest
  | c :: rest => c :: commentChars rest
  | [] => []

/-- The tokens of a comment behind a statement; a blank text gives none. -/
def commentFragment (comment : Option String) : Fragment :=
  match comment with
  | none => []
  | some text =>
    let body := Text.trim text
    if body.isEmpty then []
    else [.text (" /* " ++ String.ofList (commentChars body.toList) ++ " */")]

def returningFragment (columns : List Column) : Fragment :=
  if columns.isEmpty then [] else .text " RETURNING " :: Column.listFragment columns

/-- Changed rows are asked for only of a dialect that returns them. -/
def checkReturning (d : Dialect) (columns : List Column) : Except BuildError Unit :=
  if columns.isEmpty || d.returning then .ok () else .error (.returningUnsupported d.name)

/-- A limit on changed rows is asked for only of a dialect that can write it. -/
def checkLimit (verb : String) (d : Dialect) (limit : Option UInt64) : Except BuildError Unit :=
  if limit.isSome && d.offsetFetch then .error (.limitUnsupported verb d.name) else .ok ()

def orderFragment (columns : List Column) : Fragment :=
  if columns.isEmpty then [] else .text " ORDER BY " :: Column.listFragment columns

end QueryKit
