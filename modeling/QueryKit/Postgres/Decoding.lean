import QueryKit.Json.Reader
import QueryKit.Postgres.Binary
import QueryKit.Postgres.DataType
import QueryKit.Value.ColumnType

/-! Values from the binary form in which they are received. -/

namespace QueryKit.Postgres

/-- The number that a fixed count of bytes spells. -/
def unsigned (count : Nat) (bytes : Bytes) : Option Nat :=
  if bytes.length = count then some (natOfBytes bytes) else none

/-- The whole number that a fixed count of bytes spells. -/
def signed (count : Nat) (bytes : Bytes) : Option Int :=
  if bytes.length = count then some (intOfBytes bytes) else none

/-- The time of day a number of microseconds after midnight, days left out. -/
def timeOfMicros (n : Int) : TimeOfDay :=
  let rest := (n % 86400000000).toNat
  TimeOfDay.ofSeconds (rest / 1000000) (rest % 1000000 * 1000)

/-- The document that bytes hold. -/
def documentOf (bytes : Bytes) : Option Value :=
  (Json.parseBytes bytes).toOption.map .json

/-- The value of a type that some bytes hold, if they are well formed. -/
def readBytes : DataType → Bytes → Option Value
  | .bool, bytes =>
    match bytes with
    | [b] => some (.bool (b != 0))
    | _ => none
  | .int2, bytes => (signed 2 bytes).map fun n => .int (.ofInt n)
  | .int4, bytes => (signed 4 bytes).map fun n => .int (.ofInt n)
  | .int8, bytes => (signed 8 bytes).map fun n => .int (.ofInt n)
  | .oid, bytes => (unsigned 4 bytes).map fun n => .int (.ofInt n)
  | .float4, bytes => (unsigned 4 bytes).map fun n => .float (Single.mk (.ofNat n)).toDouble
  | .float8, bytes => (unsigned 8 bytes).map fun n => .float ⟨.ofNat n⟩
  | .text, bytes | .varchar, bytes | .bpchar, bytes | .name, bytes =>
    (String.fromUTF8? ⟨bytes.toArray⟩).map .text
  | .bytea, bytes => some (.bytes bytes)
  | .uuid, bytes => (Uuid.ofBytes? bytes).map .uuid
  | .date, bytes => (signed 4 bytes).bind fun n => (Date.ofDayNumber? n).map .date
  | .time, bytes => (signed 8 bytes).map fun n => .time (timeOfMicros n)
  | .timestamp, bytes => (signed 8 bytes).bind fun n => (Timestamp.ofMicros? n).map .timestamp
  | .timestamptz, bytes =>
    (signed 8 bytes).bind fun n => (Timestamp.ofMicros? n).map fun t => .moment ⟨t⟩
  | .json, bytes => documentOf bytes
  | .jsonb, bytes =>
    match bytes with
    | 1 :: document => documentOf document
    | _ => none
  | .other _, _ => none

/-- Reads a field of a row by its number; a missing one is a missing value. -/
def decode (type : DataType) (index : Nat) (field : Option Bytes) : Except DecodeError Value :=
  match type, field with
  | .other name, _ => .error (.unsupportedType name)
  | _, none => .ok .null
  | type, some bytes =>
    match readBytes type bytes with
    | some v => .ok v
    | none => .error (.field index)

end QueryKit.Postgres
