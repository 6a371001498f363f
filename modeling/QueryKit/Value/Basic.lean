import QueryKit.Calendar.Timestamp
import QueryKit.Json.Basic
import QueryKit.Uuid

/-! The values that a statement binds and a result row holds, and their literals. -/

namespace QueryKit

/-- A value of any column type, or none. -/
inductive Value
  | null
  | bool (b : Bool)
  | int (n : Int64)
  | float (x : Double)
  | text (s : String)
  | bytes (b : Bytes)
  | uuid (u : Uuid)
  | date (d : Date)
  | time (t : TimeOfDay)
  | timestamp (t : Timestamp)
  | moment (t : Moment)
  | json (j : Json)

namespace Value

/-- The value is missing. -/
def isNull : Value → Bool
  | null => true
  | _ => false

/-- The name of the value's kind in error texts. -/
def typeName : Value → String
  | null => "null"
  | bool _ => "bool"
  | int _ => "int"
  | float _ => "float"
  | text _ => "text"
  | bytes _ => "bytes"
  | uuid _ => "uuid"
  | date _ => "date"
  | time _ => "time"
  | timestamp _ => "timestamp"
  | moment _ => "timestamptz"
  | json _ => "json"

/-- Both values are of the same kind and have the same content. A float that is no number is not the
same as itself. -/
def same : Value → Value → Bool
  | null, null => true
  | bool a, bool b => a == b
  | int m, int n => m == n
  | float x, float y => x.same y
  | text s, text t => s == t
  | bytes a, bytes b => a == b
  | uuid u, uuid v => u == v
  | date d, date e => d == e
  | time t, time u => t == u
  | timestamp t, timestamp u => t == u
  | moment t, moment u => t == u
  | json j, json k => j.same k
  | _, _ => false

/-- A character inside a literal: an apostrophe is written twice. -/
def literalChar (c : Char) : List Char :=
  if c = '\'' then ['\'', '\''] else [c]

/-- The characters between apostrophes. -/
def literal (cs : List Char) : List Char :=
  '\'' :: cs.flatMap literalChar ++ ['\'']

/-- The characters of the literal of a value. -/
def inlineChars : Value → List Char
  | null => "NULL".toList
  | bool true => "TRUE".toList
  | bool false => "FALSE".toList
  | int n => (toString n.toInt).toList
  | float x => x.toText.toList
  | text s => literal s.toList
  | bytes b => 'X' :: '\'' :: Text.hexUpper b ++ ['\'']
  | uuid u => literal u.text.toList
  | date d => literal d.text
  | time t => literal t.text
  | timestamp t => literal (t.text ' ')
  | moment t => literal (t.utc.text 'T' ++ "+00:00".toList)
  | json j => literal j.chars

/-- The literal that stands for a value in a statement meant for reading, not for execution. -/
def inline (v : Value) : String :=
  String.ofList v.inlineChars

end Value

end QueryKit
