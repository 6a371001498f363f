import QueryKit.Client.Connection
import QueryKit.Postgres.Decoding
import QueryKit.Postgres.Encoding

/-! Statements on a PostgreSQL server: a statement is prepared, which tells its parameters and
columns; then the values are bound, and the statement is executed. -/

namespace QueryKit.Postgres

/-- A step at which a server refuses a statement. -/
inductive Stage
  | prepare
  | bind
  | execute
deriving DecidableEq

/-- The step with a name. -/
def Stage.ofName? : String → Option Stage
  | "prepare" => some prepare
  | "bind" => some bind
  | "execute" => some execute
  | _ => none

/-- What goes wrong on a server. -/
inductive Fault
  | refused (stage : Stage) (code text : String)
  /-- The server hangs up when a statement is to be prepared. -/
  | closed

/-- A column that a server describes. -/
structure ServerColumn where
  name : String
  type : DataType

/-- A server by its answers to a statement. -/
structure Server where
  parameters : List DataType := []
  columns : List ServerColumn := []
  rows : List (List (Option Bytes)) := []
  /-- The command tag. -/
  tag : String := "SELECT 0"
  fault : Option Fault := none

/-- What a server received, and the result. -/
structure Exchange (α : Type) where
  /-- The values that were bound, if that step was reached. -/
  bound : Option (List (Option Bytes))
  result : Except Error α

/-- Changes a successful result. -/
def Exchange.map {α β : Type} (f : α → β) (e : Exchange α) : Exchange β :=
  ⟨e.bound, e.result.map f⟩

/-- The number of changed rows in a command tag: its last word, if that is a number. -/
def affectedRows (tag : String) : UInt64 :=
  let word := ((Text.splitAt ' ' tag.toList).getLast?).getD []
  let digits := match word with
    | '+' :: rest => rest
    | _ => word
  if digits.isEmpty || !digits.all Char.isDigit then 0
  else
    let n := digits.foldl (fun n c => 10 * n + (c.toNat - 48)) 0
    if n < UInt64.size then UInt64.ofNat n else 0

/-- The bytes of the values for the parameters from a number on. -/
def encodeAll (number : Nat) : List DataType → List Value → Except Error (List (Option Bytes))
  | type :: types, v :: vs =>
    match encode type v with
    | none => .error (.query s!"error serializing parameter {number}")
    | some field => do
      let fields ← encodeAll (number + 1) types vs
      pure (field :: fields)
  | _, _ => .ok []

namespace Server

/-- The statement is prepared. -/
def prepare (s : Server) : Except Error Unit :=
  match s.fault with
  | some .closed => .error (.connection "connection closed")
  | some (.refused .prepare code text) => .error (.query (code ++ ": " ++ text))
  | _ => .ok ()

/-- The bytes to be bound. -/
def bind (s : Server) (operands : List Value) : Except Error (List (Option Bytes)) :=
  if s.parameters.length = operands.length then encodeAll 0 s.parameters operands
  else
    .error (.query
      s!"expected {s.parameters.length} parameters but got {operands.length}")

/-- The statement is executed once its values are bound. -/
def complete (s : Server) : Except Error Unit :=
  match s.fault with
  | some (.refused .bind code text) | some (.refused .execute code text) =>
    .error (.query (code ++ ": " ++ text))
  | _ => .ok ()

/-- Goes through the steps up to the answer. -/
def run {α : Type} (s : Server) (operands : List Value) (answer : Except Error α) : Exchange α :=
  match s.prepare with
  | .error e => ⟨none, .error e⟩
  | .ok () =>
    match s.bind operands with
    | .error e => ⟨none, .error e⟩
    | .ok fields => ⟨some fields, s.complete.bind fun _ => answer⟩

def header (s : Server) : Header :=
  ⟨s.columns.map ServerColumn.name, "_"⟩

/-- Reads the fields of a row from a number on. -/
def readRow (index : Nat) : List ServerColumn → List (Option Bytes) → Except Error (List Value)
  | column :: columns, field :: fields => do
    let v ← (decode column.type index field).mapError (.decode column.name)
    let vs ← readRow (index + 1) columns fields
    pure (v :: vs)
  | _, _ => .ok []

/-- The rows of the answer; the first field that cannot be read is the error. -/
def readRows (s : Server) : Except Error RowSet := do
  let rows ← s.rows.mapM fun fields => do
    Row.ofValues s.header (← readRow 0 s.columns fields)
  pure ⟨s.header, rows⟩

def execute (s : Server) (operands : List Value) : Exchange Changes :=
  s.run operands (.ok ⟨affectedRows s.tag, none⟩)

def query (s : Server) (operands : List Value) : Exchange RowSet :=
  s.run operands s.readRows

/-- Runs a statement for its first row, if there is one. -/
def queryOption (s : Server) (operands : List Value) : Exchange (Option AnyRow) :=
  (s.query operands).map RowSet.first?

def queryOne (s : Server) (operands : List Value) : Exchange AnyRow :=
  let e := s.query operands
  ⟨e.bound, e.result.bind fun rows =>
    match rows.first? with
    | some row => .ok row
    | none => .error .noRows⟩

/-- The server as a client. -/
def client (s : Server) : Client where
  execute _ operands := { result := (s.execute operands).result }
  query _ operands := { result := (s.query operands).result }

end Server

end QueryKit.Postgres
