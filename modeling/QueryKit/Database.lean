import QueryKit.Client.Connection
import QueryKit.Delete
import QueryKit.Insert
import QueryKit.Select
import QueryKit.Update

/-! A database is a connection with settings: calls have a time limit, are logged, and answer rows
that bear the separator of the settings. Statements made for the database inherit its settings. -/

namespace QueryKit

/-- The first place between two characters, or at an end of the text, that is found from a number of
bytes backwards. -/
def lastBoundary (s : String) : Nat → Nat
  | 0 => 0
  | place + 1 =>
    if String.Pos.Raw.IsValid s ⟨place + 1⟩ then place + 1 else lastBoundary s place

theorem isValid_lastBoundary (s : String) (place : Nat) :
    String.Pos.Raw.IsValid s ⟨lastBoundary s place⟩ := by
  fun_induction lastBoundary s place with
  | case1 => exact String.Pos.Raw.isValid_zero
  | case2 place hvalid => exact hvalid
  | case3 place _ ih => exact ih

/-- A text cut off to at most the given number of bytes, between two characters. -/
def truncated (limit : Nat) (s : String) : String :=
  if s.utf8ByteSize ≤ limit then s
  else (s.sliceTo (s.pos ⟨lastBoundary s limit⟩ (isValid_lastBoundary s limit))).copy

/-- A connection with settings. -/
structure Database where
  connection : Connection
  settings : Settings

namespace Database

/-- A statement as the log shows it. -/
def shown (d : Database) (text : String) : String :=
  match d.settings.logLimit with
  | some limit =>
    if limit < text.utf8ByteSize then truncated limit text ++ "..." else text
  | none => text

/-- Cuts a call off at the time limit. -/
def limited {α : Type} (d : Database) (r : Run α) : Run α :=
  match d.settings.timeout with
  | some limit =>
    if limit.nanos < r.latency.nanos then
      { r with result := .error (.timeout limit), latency := limit }
    else r
  | none => r

/-- The events that a call leaves. -/
def events {α : Type} (d : Database) (verb : Verb) (text : String) (operands : List Value)
    (r : Run α) : List Event :=
  match r.result with
  | .error e => [.failed verb e]
  | .ok _ =>
    .executed verb d.settings.dialect.name (d.shown text) operands.length ::
      match d.settings.slowAfter with
      | some threshold =>
        if threshold.nanos < r.elapsed.nanos then [.slow verb (d.shown text) threshold] else []
      | none => []

/-- A call under the settings. -/
def watched {α : Type} (d : Database) (verb : Verb) (text : String) (operands : List Value)
    (r : Run α) : Run α :=
  let r := d.limited r
  { r with events := r.events ++ d.events verb text operands r }

def execute (d : Database) (text : String) (operands : List Value) : Run Changes :=
  d.watched .execute text operands (d.connection.execute text operands)

def query (d : Database) (text : String) (operands : List Value) : Run RowSet :=
  (d.watched .query text operands (d.connection.query text operands)).andThen fun rows =>
    .ok (rows.withSeparator d.settings.separator)

def asConnection (d : Database) : Connection where
  execute := d.execute
  query := d.query

def select (d : Database) (columns : List Column) : Select :=
  (({} : Select).withSettings d.settings).columns columns

def insertInto (d : Database) (t : Table) : Insert :=
  (({} : Insert).withSettings d.settings).into t

def update (d : Database) (t : Table) : Update :=
  (({} : Update).withSettings d.settings).table t

def deleteFrom (d : Database) (t : Table) : Delete :=
  (({} : Delete).withSettings d.settings).table t

variable {α κ : Type}

/-- The rows of a draft, worked on by a cursor. -/
def fetch (d : Database) (draft : Draft) (f : Cursor → Except Error α) : Run α :=
  match draft.build with
  | .error e => .refused e
  | .ok s => (d.query s.text s.operands).andThen fun rows => f (.ofRows rows)

/-- Reads the first row, if there is one. -/
def fetchOption (d : Database) (draft : Draft) (reader : RowReader α) : Run (Option α) :=
  d.fetch draft fun cursor => (cursor.oneOrNone reader).result

def fetchOne (d : Database) (draft : Draft) (reader : RowReader α) : Run α :=
  (d.fetchOption draft reader).andThen fun
    | some x => .ok x
    | none => .error .noRows

def fetchAll (d : Database) (draft : Draft) (reader : RowReader α) : Run (List α) :=
  d.fetch draft fun cursor => (cursor.many reader).result

/-- Maps the first column to the rest. -/
def fetchMap [DecidableEq κ] (d : Database) (draft : Draft) (keys : RowReader κ)
    (values : RowReader α) : Run (List (κ × α)) :=
  d.fetch draft fun cursor => (cursor.mapKeys [] .remaining keys values).result

def fetchSet [DecidableEq κ] (d : Database) (draft : Draft) (keys : RowReader κ)
    (keyColumns : List String) : Run (List κ) :=
  d.fetch draft fun cursor => (cursor.keySet keyColumns keys).result

/-- Runs the statement of a draft that changes rows. -/
def perform (d : Database) (draft : Draft) : Run Changes :=
  match draft.build with
  | .error e => .refused e
  | .ok s => d.execute s.text s.operands

end Database

end QueryKit
