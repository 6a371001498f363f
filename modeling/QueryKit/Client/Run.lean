import QueryKit.RowSet

/-! Runs: the outcome of something done on a connection, together with the calls that reached the
client, the log events, and the time it took. -/

namespace QueryKit

/-- A kind of call. -/
inductive Verb
  | execute
  | query
deriving DecidableEq

def Verb.name : Verb → String
  | .execute => "execute"
  | .query => "query"

/-- A call of the client. -/
structure Call where
  verb : Verb
  text : String
  operands : List Value

/-- An event in the log. -/
inductive Event
  /-- A call succeeded. -/
  | executed (verb : Verb) (dialect shown : String) (operands : Nat)
  /-- A call failed. -/
  | failed (verb : Verb) (e : Error)
  /-- A successful call took longer than a threshold. -/
  | slow (verb : Verb) (shown : String) (threshold : Duration)

/-- The fields of an event in a structured log. -/
def Event.fields (event : Event) : List (String × Value) :=
  let entry (level message : String) (verb : Verb) : List (String × Value) :=
    [("level", .text level), ("message", .text message), ("kind", .text verb.name)]
  match event with
  | executed verb dialect shown operands =>
    entry "DEBUG" "executed" verb ++
      [("dialect", .text dialect), ("sql", .text shown), ("args", .int (.ofNat operands))]
  | failed verb e => entry "DEBUG" "failed" verb ++ [("error", .text e.message)]
  | slow verb shown threshold =>
    entry "WARN" "slow query" verb ++
      [("sql", .text shown), ("threshold_ms", .float threshold.toMillis)]

/-- What a statement that changes rows answers. -/
structure Changes where
  affected : UInt64
  lastId : Option Int64 := none
deriving DecidableEq

/-- An outcome and how it came about. -/
structure Run (α : Type) where
  result : Except Error α
  calls : List Call := []
  events : List Event := []
  /-- The time until the answer, by the clock of timeouts. -/
  latency : Duration := ⟨0⟩
  /-- The time until the answer, by the clock of the log. -/
  elapsed : Duration := ⟨0⟩

namespace Run

variable {α β : Type}

/-- An error before anything is done. -/
def refused (e : Error) : Run α :=
  { result := .error e }

/-- Works on a successful result. -/
def andThen (r : Run α) (f : α → Except Error β) : Run β :=
  { r with result := r.result.bind f }

end Run

end QueryKit
