import QueryKit.Error
import QueryKit.Record.Field

/-! Rows of a result. A row belongs to a header, which names its columns, and has one value for each
of them. A column is found in the index of the names, which keeps the first place of each. -/

namespace QueryKit

/-- The columns of a result. -/
structure Header where
  names : List String
  /-- What stands between the name of an embedded record and the names of its fields. -/
  separator : String := "_"
deriving DecidableEq

/-- Enters something under a name, unless the name has an entry already. -/
def enter {α : Type} (name : String) (x : α) : List (String × α) → List (String × α)
  | [] => [(name, x)]
  | (held, y) :: rest => if held = name then (held, y) :: rest else (held, y) :: enter name x rest

namespace Header

def width (h : Header) : Nat :=
  h.names.length

/-- A column by its place. -/
abbrev Place (h : Header) : Type :=
  Fin h.names.length

/-- The index of the names, entered from left to right. -/
def index (h : Header) : List (String × h.Place) :=
  (List.finRange h.names.length).foldl (fun entries i => enter (h.names.get i) i entries) []

/-- The place of a name in the index. -/
def position? (h : Header) (name : String) : Option h.Place :=
  h.index.lookup name

/-- The columns at some places, in the order of the places. -/
def select (h : Header) (places : List h.Place) : Header :=
  { h with names := places.map fun i => h.names[i] }

def withSeparator (h : Header) (separator : String) : Header :=
  { h with separator }

end Header

/-- A row: one value for each column. -/
structure Row (h : Header) where
  values : List Value
  length_eq : values.length = h.names.length

namespace Row

variable {h : Header}

/-- The row of some values, as many as there are columns. -/
def ofValues (h : Header) (values : List Value) : Except Error (Row h) :=
  if length_eq : values.length = h.names.length then .ok ⟨values, length_eq⟩
  else .error (.other s!"row has {values.length} values for {h.names.length} columns")

def valueAt (r : Row h) (i : h.Place) : Value :=
  r.values.get (i.cast r.length_eq.symm)

def get? (r : Row h) (name : String) : Option Value :=
  (h.position? name).map r.valueAt

/-- Reads the value at a place; errors bear a name. -/
def readAt (r : Row h) (t : ColumnType) (i : h.Place) (name : String) : Except Error t.Carrier :=
  (t.read (r.valueAt i)).mapError (.decode name)

def column (r : Row h) (t : ColumnType) (name : String) : Except Error t.Carrier :=
  match h.position? name with
  | none => .error (.decode name .columnMissing)
  | some i => r.readAt t i name

def index (r : Row h) (t : ColumnType) (n : Nat) : Except Error t.Carrier :=
  if inside : n < h.names.length then r.readAt t ⟨n, inside⟩ h.names[n]
  else .error (.decode s!"#{n}" .indexOutOfRange)

def scopedName (_ : Row h) (scope name : String) : String :=
  QueryKit.scopedName scope h.separator name

/-- The values at some places, in the order of the places. -/
def select (r : Row h) (places : List h.Place) : Row (h.select places) where
  values := places.map r.valueAt
  length_eq := by simp [Header.select]

def withSeparator (r : Row h) (separator : String) : Row (h.withSeparator separator) :=
  ⟨r.values, r.length_eq⟩

end Row

end QueryKit
