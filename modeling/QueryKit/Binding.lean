import QueryKit.Cursor
import QueryKit.Row.Reader

/-! Rows are bound to the shape that a destination asks for: one row, all rows, rows under keys, or
the keys alone. The places of key columns are found once, before any row is taken. The first error
ends the binding; the rows taken until then are gone. Room for the rows is made in advance, as far as
their number is expected or told. -/

namespace QueryKit

/-- What is kept under a key. -/
inductive KeyedValue
  /-- The columns that are not key columns. -/
  | remaining
  /-- The whole row. -/
  | record
deriving DecidableEq

/-- A shape that rows are bound to. Without key columns, the first column is the key. -/
inductive Destination
  | one
  | many
  | map (keyColumns : List String) (value : KeyedValue)
  | presence (keyColumns : List String)
deriving DecidableEq

/-- The map from the first column to the rest. -/
def Destination.mapFirst : Destination :=
  map [] .remaining

/-- Rows in the shape of their destination. In a map every key stands once, in the order in which
the keys first came. -/
inductive Bound (κ α : Type)
  | one (x : α)
  | many (xs : List α)
  | map (entries : List (κ × α))
  | presence (entries : List (κ × Bool))

/-- Puts a value under a key, in place of an earlier one. -/
def putEntry {κ α : Type} [DecidableEq κ] (entries : Array (κ × α)) (entry : κ × α) :
    Array (κ × α) :=
  match entries.toList.findIdx? (·.1 = entry.1) with
  | some i => entries.modify i fun held => (held.1, entry.2)
  | none => entries.push entry

namespace Header

/-- The places of key columns. -/
def keyPlaces (h : Header) (keyColumns : List String) : Except Error (List h.Place) :=
  if keyColumns.isEmpty then
    if inside : 0 < h.names.length then .ok [⟨0, inside⟩] else .error (.decode "#0" .noColumns)
  else
    keyColumns.mapM fun name =>
      match h.position? name with
      | some i => .ok i
      | none => .error (.decode name .keyMissing)

/-- The places that are not among the given ones. -/
def otherPlaces (h : Header) (places : List h.Place) : List h.Place :=
  (List.finRange h.names.length).filter fun i => i ∉ places

end Header

namespace Row

variable {h : Header} {κ α : Type}

/-- The key of a row. -/
def key (row : Row h) (places : List h.Place) (reader : RowReader κ) : Except Error κ :=
  reader.read (row.select places)

/-- What is kept of a row under its key. -/
def item (row : Row h) (places : List h.Place) (reader : RowReader α) :
    KeyedValue → Except Error α
  | .remaining => reader.read (row.select (h.otherPlaces places))
  | .record => reader.read row

end Row

/-- The outcome of a binding and the cursor that it leaves. -/
structure Binding (α : Type) where
  result : Except Error α
  cursor : Cursor

/-- Changes the result of a successful binding. -/
def Binding.map {α β : Type} (f : α → β) (b : Binding α) : Binding β :=
  ⟨b.result.map f, b.cursor⟩

namespace Cursor

variable {κ α : Type}

/-- The greatest number of rows that room is made for in advance. -/
def maxRoom : Nat := 4096

/-- The number of rows that room is made for: as many as are expected, or else as the cursor tells. -/
def room (c : Cursor) (expected : Option Nat) : Nat :=
  min ((expected.or c.sizeHint).getD 0) maxRoom

/-- Reads the rows of all steps and puts what is read into a collection; an error ends it. Gives the
steps that are left as well. -/
def gather {β : Type} {h : Header} (read : Row h → Except Error α) (put : β → α → β) :
    β → List (Except Error (Row h)) → Except Error β × List (Except Error (Row h))
  | held, [] => (.ok held, [])
  | _, .error e :: rest => (.error e, rest)
  | held, .ok row :: rest =>
    match read row with
    | .error e => (.error e, rest)
    | .ok x => gather read put (put held x) rest

/-- Reads all rows into an array with room for those that are expected. -/
def collect {β : Type} (c : Cursor) (read : Row c.header → Except Error α)
    (put : Array β → α → Array β) (expected : Option Nat) : Binding (List β) :=
  let (xs, left) := gather read put (.emptyWithCapacity (c.room expected)) c.steps
  ⟨xs.map Array.toList, { c with steps := left }⟩

/-- Reads the next row; there must be one. -/
def one (c : Cursor) (reader : RowReader α) : Binding α :=
  match c.steps with
  | [] => ⟨.error .noRows, c⟩
  | .error e :: rest => ⟨.error e, { c with steps := rest }⟩
  | .ok row :: rest => ⟨reader.read row, { c with steps := rest }⟩

def many (c : Cursor) (reader : RowReader α) (expected : Option Nat := none) : Binding (List α) :=
  c.collect reader.read .push expected

def keyed [DecidableEq κ] (c : Cursor) (keyColumns : List String) (keys : RowReader κ)
    (item : List c.header.Place → Row c.header → Except Error α) (expected : Option Nat) :
    Binding (List (κ × α)) :=
  match c.header.keyPlaces keyColumns with
  | .error e => ⟨.error e, c⟩
  | .ok places =>
    c.collect (fun row => do
      let key ← row.key places keys
      let x ← item places row
      pure (key, x)) putEntry expected

/-- Reads the next row, if there is one. -/
def oneOrNone (c : Cursor) (reader : RowReader α) : Binding (Option α) :=
  let b := c.one reader
  { b with
    result :=
      match b.result with
      | .ok x => .ok (some x)
      | .error e => if e.isNotFound then .ok none else .error e }

/-- Maps keys to what is kept of the rows. -/
def mapKeys [DecidableEq κ] (c : Cursor) (keyColumns : List String) (value : KeyedValue)
    (keys : RowReader κ) (values : RowReader α) (expected : Option Nat := none) :
    Binding (List (κ × α)) :=
  c.keyed keyColumns keys (fun places row => row.item places values value) expected

/-- Marks the keys that some row has. -/
def markKeys [DecidableEq κ] (c : Cursor) (keyColumns : List String) (keys : RowReader κ)
    (expected : Option Nat := none) : Binding (List (κ × Bool)) :=
  c.keyed keyColumns keys (fun _ _ => .ok true) expected

/-- The keys that some row has. -/
def keySet [DecidableEq κ] (c : Cursor) (keyColumns : List String) (keys : RowReader κ) :
    Binding (List κ) :=
  (c.markKeys keyColumns keys).map (·.map Prod.fst)

/-- Binds the rows of a cursor. An expected number of rows may be given, for which room is made. -/
def bind [DecidableEq κ] (c : Cursor) (destination : Destination) (keys : RowReader κ)
    (values : RowReader α) (expected : Option Nat := none) : Binding (Bound κ α) :=
  match destination with
  | .one => (c.one values).map .one
  | .many => (c.many values expected).map .many
  | .map keyColumns value => (c.mapKeys keyColumns value keys values expected).map .map
  | .presence keyColumns => (c.markKeys keyColumns keys expected).map .presence

end Cursor

end QueryKit
