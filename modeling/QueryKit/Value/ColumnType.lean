import QueryKit.Calendar.Reader
import QueryKit.Json.Reader
import QueryKit.Value.Basic

/-! The types that a column is read at. Every type has a carrier, a way to read a value as the
carrier, and a value for a missing entry if the type can represent absence. -/

namespace QueryKit

/-- A width of integers. -/
inductive IntType
  | i8
  | i16
  | i32
  | i64
  | u8
  | u16
  | u32
  | u64
deriving DecidableEq

namespace IntType

/-- The name of the width in error texts. -/
def name : IntType → String
  | i8 => "i8"
  | i16 => "i16"
  | i32 => "i32"
  | i64 => "i64"
  | u8 => "u8"
  | u16 => "u16"
  | u32 => "u32"
  | u64 => "u64"

/-- The least number of the width. -/
def least : IntType → Int
  | i8 => -128
  | i16 => -32768
  | i32 => -2147483648
  | i64 => -9223372036854775808
  | u8 | u16 | u32 | u64 => 0

/-- The greatest number of the width. -/
def greatest : IntType → Int
  | i8 => 127
  | i16 => 32767
  | i32 => 2147483647
  | i64 => 9223372036854775807
  | u8 => 255
  | u16 => 65535
  | u32 => 4294967295
  | u64 => 18446744073709551615

/-- The number fits the width. -/
abbrev Fits (w : IntType) (n : Int) : Prop :=
  w.least ≤ n ∧ n ≤ w.greatest

/-- The numbers of the width. -/
abbrev Number (w : IntType) : Type :=
  { n : Int // w.Fits n }

/-- One or zero. -/
def ofBool (w : IntType) (b : Bool) : w.Number :=
  ⟨if b then 1 else 0, by cases w <;> cases b <;> decide⟩

end IntType

/-- Why a column cannot be read. -/
inductive DecodeError
  | columnMissing
  | indexOutOfRange
  | unexpectedNull
  | mismatch (expected found : String)
  | integerRange (n : Int64) (type : IntType)
  | uuid (e : UuidError)
  | calendar (e : CalendarError)
  | json (e : JsonError)
  | noColumns
  | keyMissing
  | field (index : Nat)
  | unsupportedType (name : String)
  | other (text : String)
deriving DecidableEq

def DecodeError.message : DecodeError → String
  | .columnMissing => "column not found in result set"
  | .indexOutOfRange => "column index out of range"
  | .unexpectedNull => "unexpected NULL for non-nullable destination"
  | .mismatch expected found => s!"expected {expected}, got {found}"
  | .integerRange n type => s!"integer {n.toInt} out of range for {type.name}"
  | .uuid e => e.message
  | .calendar e => e.message
  | .json e => e.message
  | .noColumns => "result set has no columns"
  | .keyMissing => "key column not in result set"
  | .field index => s!"error deserializing column {index}"
  | .unsupportedType name => s!"unsupported column type {name}"
  | .other text => text

/-- A type that a column is read at. -/
inductive ColumnType
  | value
  | bool
  | int (w : IntType)
  | single
  | double
  | text
  | bytes
  | uuid
  | date
  | time
  | timestamp
  | moment
  | json
  | option (t : ColumnType)
deriving DecidableEq

namespace ColumnType

/-- The type with a short name that stands for no optional type. -/
def ofPlainName? : String → Option ColumnType
  | "value" => some value
  | "bool" => some bool
  | "i8" => some (int .i8)
  | "i16" => some (int .i16)
  | "i32" => some (int .i32)
  | "i64" => some (int .i64)
  | "u8" => some (int .u8)
  | "u16" => some (int .u16)
  | "u32" => some (int .u32)
  | "u64" => some (int .u64)
  | "f32" => some single
  | "f64" => some double
  | "text" => some text
  | "bytes" => some bytes
  | "uuid" => some uuid
  | "date" => some date
  | "time" => some time
  | "ts" => some timestamp
  | "tstz" => some moment
  | "json" => some json
  | _ => none

/-- The type with a short name; a question mark in front makes the type optional. -/
def ofName? (name : String) : Option ColumnType :=
  match name.toList with
  | '?' :: rest => (ofPlainName? (String.ofList rest)).map option
  | _ => ofPlainName? name

/-- What a column of the type is read as. -/
@[reducible] def Carrier : ColumnType → Type
  | value => Value
  | bool => Bool
  | int w => w.Number
  | single => Single
  | double => Double
  | text => String
  | bytes => Bytes
  | uuid => Uuid
  | date => Date
  | time => TimeOfDay
  | timestamp => Timestamp
  | moment => Moment
  | json => Json
  | option t => Option t.Carrier

/-- The result for a missing entry. -/
def ofNull : (t : ColumnType) → Except DecodeError t.Carrier
  | value => .ok .null
  | json => .ok .null
  | option _ => .ok none
  | bool | int _ | single | double | text | bytes | uuid | date | time | timestamp | moment =>
    .error .unexpectedNull

/-- A value of another kind than the expected one. -/
def mismatch {α : Type} (expected : String) (found : Value) : Except DecodeError α :=
  .error (.mismatch expected found.typeName)

/-- Reads an entry that is not missing. -/
def ofValue : (t : ColumnType) → Value → Except DecodeError t.Carrier
  | value, v => .ok v
  | bool, v =>
    match v with
    | .bool b => .ok b
    | .int n => if n = 0 then .ok false else if n = 1 then .ok true else mismatch "bool" v
    | _ => mismatch "bool" v
  | int w, v =>
    match v with
    | .int n => if h : w.Fits n.toInt then .ok ⟨n.toInt, h⟩ else .error (.integerRange n w)
    | .bool b => .ok (w.ofBool b)
    | _ => mismatch w.name v
  | double, v =>
    match v with
    | .float x => .ok x
    | .int n => .ok (Double.ofInt n.toInt)
    | _ => mismatch "f64" v
  | single, v =>
    match v with
    | .float x => .ok x.toSingle
    | .int n => .ok (Double.ofInt n.toInt).toSingle
    | _ => mismatch "f64" v
  | text, v =>
    match v with
    | .text s => .ok s
    | .uuid u => .ok u.text
    | _ => mismatch "text" v
  | bytes, v =>
    match v with
    | .bytes b => .ok b
    | .text s => .ok s.toUTF8.data.toList
    | _ => mismatch "bytes" v
  | uuid, v =>
    match v with
    | .uuid u => .ok u
    | .text s => (Uuid.parse s).mapError .uuid
    | _ => mismatch "uuid" v
  | date, v =>
    match v with
    | .date d => .ok d
    | .timestamp t => .ok t.date
    | .text s => (Date.parse s).mapError .calendar
    | _ => mismatch "date" v
  | time, v =>
    match v with
    | .time t => .ok t
    | .text s => (TimeOfDay.parse s).mapError .calendar
    | _ => mismatch "time" v
  | timestamp, v =>
    match v with
    | .timestamp t => .ok t
    | .moment t => .ok t.utc
    | .text s => (Timestamp.parse s).mapError .calendar
    | _ => mismatch "timestamp" v
  | moment, v =>
    match v with
    | .moment t => .ok t
    | .timestamp t => .ok ⟨t⟩
    | .text s => (Moment.parse s).mapError .calendar
    | _ => mismatch "timestamptz" v
  | json, v =>
    match v with
    | .json j => .ok j
    | .text s => (Json.parse s).mapError .json
    | _ => mismatch "json" v
  | option t, v => (t.ofValue v).map some

def read (t : ColumnType) (v : Value) : Except DecodeError t.Carrier :=
  if v.isNull then t.ofNull else t.ofValue v

/-- The value that a carrier is bound as. An integer that no value holds has none. -/
def toValue? : (t : ColumnType) → t.Carrier → Option Value
  | value, v => some v
  | bool, b => some (.bool b)
  | int _, n => if IntType.i64.Fits n.val then some (.int (.ofInt n.val)) else none
  | single, x => some (.float x.toDouble)
  | double, x => some (.float x)
  | text, s => some (.text s)
  | bytes, b => some (.bytes b)
  | uuid, u => some (.uuid u)
  | date, d => some (.date d)
  | time, t => some (.time t)
  | timestamp, t => some (.timestamp t)
  | moment, t => some (.moment t)
  | json, j => some (.json j)
  | option _, none => some .null
  | option t, some x => t.toValue? x

/-- The start of 1970. -/
def unixEpoch : Timestamp := ⟨⟨1970, 1, 1, rfl⟩, .midnight⟩

/-- The carrier's default, which a skipped field gets. -/
def blank : (t : ColumnType) → t.Carrier
  | value => .null
  | bool => false
  | int w => w.ofBool false
  | single => ⟨0⟩
  | double => ⟨0⟩
  | text => ""
  | bytes => []
  | uuid => Uuid.zero
  | date => unixEpoch.date
  | time => .midnight
  | timestamp => unixEpoch
  | moment => ⟨unixEpoch⟩
  | json => .null
  | option _ => none

end ColumnType

end QueryKit
