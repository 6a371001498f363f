import QueryKit.Dialect
import QueryKit.Error

/-! Registries of dialects by name. Names are compared without regard to the case of ASCII letters,
and a later registration takes the place of an earlier one. -/

namespace QueryKit

/-- Dialects under lower case names, in ascending order of the names. -/
structure Registry where
  entries : List (String × Dialect) := []

namespace Registry

/-- The form in which a name is kept: its ASCII letters are in lower case. -/
def key (name : String) : String :=
  String.ofList (name.toList.map Char.toLower)

/-- Puts an entry in its place, instead of one with the same name. -/
def place (name : String) (d : Dialect) : List (String × Dialect) → List (String × Dialect)
  | [] => [(name, d)]
  | (other, e) :: rest =>
    if name = other then (name, d) :: rest
    else if name < other then (name, d) :: (other, e) :: rest
    else (other, e) :: place name d rest

def registerAs (r : Registry) (name : String) (d : Dialect) : Registry :=
  ⟨place (key name) d r.entries⟩

def register (r : Registry) (d : Dialect) : Registry :=
  r.registerAs d.name d

def builtins : Registry :=
  Dialect.builtins.foldl register {}

/-- The dialect under a name, if there is one. -/
def find? (r : Registry) (name : String) : Option Dialect :=
  r.entries.lookup (key name)

def get (r : Registry) (name : String) : Except Error Dialect :=
  match r.find? name with
  | some d => .ok d
  | none => .error (.build (.unknownDialect name))

def names (r : Registry) : List String :=
  r.entries.map Prod.fst

end Registry

end QueryKit
