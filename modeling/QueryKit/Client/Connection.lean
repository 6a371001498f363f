import QueryKit.Binding
import QueryKit.Client.Run
import QueryKit.Draft

/-! Connections: whatever runs statements. A bare client is one, and so is a client with settings.
The first row of a query is always taken from the rows that it answers: a client could have a call of
its own for it, but none of the library has one. -/

namespace QueryKit

/-- What a client answers to a call. -/
structure Reply (α : Type) where
  result : Except Error α
  latency : Duration := ⟨0⟩
  elapsed : Duration := ⟨0⟩

/-- A client by its answers. -/
structure Client where
  execute : String → List Value → Reply Changes
  query : String → List Value → Reply RowSet

/-- A client that answers every call alike: with rows or changes, or with an error. -/
def Client.constant (rows : RowSet) (changes : Changes) (error : Option Error)
    (latency elapsed : Duration) : Client :=
  let reply {α : Type} (x : α) : Reply α := ⟨(error.map .error).getD (.ok x), latency, elapsed⟩
  ⟨fun _ _ => reply changes, fun _ _ => reply rows⟩

/-- Something that runs statements. -/
structure Connection where
  execute : String → List Value → Run Changes
  query : String → List Value → Run RowSet

/-- The run of a single call. -/
def Reply.run {α : Type} (r : Reply α) (call : Call) : Run α where
  result := r.result
  calls := [call]
  latency := r.latency
  elapsed := r.elapsed

/-- The connection of a bare client. -/
def Client.connection (c : Client) : Connection where
  execute text operands := (c.execute text operands).run ⟨.execute, text, operands⟩
  query text operands := (c.query text operands).run ⟨.query, text, operands⟩

/-- A row together with its header. -/
abbrev AnyRow := (h : Header) × Row h

/-- The first row of a set, if there is one. -/
def RowSet.first? (s : RowSet) : Option AnyRow :=
  s.pop?.map fun (row, _) => ⟨s.header, row⟩

namespace Connection

/-- The first row that a query answers, if there is one. This is what every client does that does not
define it anew. -/
def queryOption (c : Connection) (text : String) (operands : List Value) : Run (Option AnyRow) :=
  (c.query text operands).andThen fun rows => .ok rows.first?

/-- The first row that a query answers; there must be one. This is what every client does that does
not define it anew. -/
def queryOne (c : Connection) (text : String) (operands : List Value) : Run AnyRow :=
  (c.query text operands).andThen fun rows =>
    match rows.first? with
    | some row => .ok row
    | none => .error .noRows

end Connection

/-! The statement of a draft, run on a connection. A draft that cannot be built does not reach the
connection. -/

namespace Draft

variable {α κ : Type}

/-- Builds the statement and hands it on. -/
def on (d : Draft) (f : String → List Value → Run α) : Run α :=
  match d.build with
  | .error e => .refused e
  | .ok s => f s.text s.operands

def execute (d : Draft) (c : Connection) : Run Changes :=
  d.on c.execute

def query (d : Draft) (c : Connection) : Run RowSet :=
  d.on c.query

def queryOne (d : Draft) (c : Connection) : Run AnyRow :=
  d.on c.queryOne

def fetchAll (d : Draft) (c : Connection) (reader : RowReader α) : Run (List α) :=
  (d.query c).andThen fun rows => ((Cursor.ofRows rows).many reader).result

/-- Reads the first row, if there is one. -/
def fetchOption (d : Draft) (c : Connection) (reader : RowReader α) : Run (Option α) :=
  (d.query c).andThen fun rows => ((Cursor.ofRows rows).oneOrNone reader).result

def fetchOne (d : Draft) (c : Connection) (reader : RowReader α) : Run α :=
  (d.fetchOption c reader).andThen fun
    | some x => .ok x
    | none => .error .noRows

/-- Maps the first column to the rest. -/
def fetchMap [DecidableEq κ] (d : Draft) (c : Connection) (keys : RowReader κ)
    (values : RowReader α) : Run (List (κ × α)) :=
  (d.query c).andThen fun rows =>
    ((Cursor.ofRows rows).mapKeys [] .remaining keys values).result

def fetchSet [DecidableEq κ] (d : Draft) (c : Connection) (keys : RowReader κ)
    (keyColumns : List String) : Run (List κ) :=
  (d.query c).andThen fun rows => ((Cursor.ofRows rows).keySet keyColumns keys).result

end Draft

end QueryKit
