import QueryKit.Postgres.Binary
import QueryKit.Postgres.DataType
import QueryKit.Value.Basic

/-! The binary form of values that are sent. The kind of a value decides on its form; only numbers
are fitted to the type of their parameter. -/

namespace QueryKit.Postgres

/-- The bytes of an integer if it lies between two bounds. -/
def fitted (count : Nat) (least greatest n : Int) : Option Bytes :=
  if least ≤ n ∧ n ≤ greatest then some (bytesOfInt count n) else none

/-- The bytes of an integer, if it fits its type. -/
def encodeInt (type : DataType) (n : Int) : Option Bytes :=
  match type with
  | .int2 => fitted 2 (-32768) 32767 n
  | .int4 => fitted 4 (-2147483648) 2147483647 n
  | .oid => fitted 4 0 4294967295 n
  | .float4 => some (bytesOfNat 4 (Single.ofInt n).bits.toNat)
  | .float8 => some (bytesOfNat 8 (Double.ofInt n).bits.toNat)
  | _ => some (bytesOfInt 8 n)

/-- The bytes of a value that is not missing, if it fits its type. -/
def encodePresent (type : DataType) : Value → Option Bytes
  | .null => none
  | .bool b => some [if b then 1 else 0]
  | .int n => encodeInt type n.toInt
  | .float x =>
    some <| if type = .float4 then bytesOfNat 4 x.toSingle.bits.toNat else bytesOfNat 8 x.bits.toNat
  | .text s => some s.toUTF8.data.toList
  | .bytes b => some b
  | .uuid u => some u.toList
  | .date d => some (bytesOfInt 4 d.dayNumber)
  | .time t => some (bytesOfNat 8 (t.nanos / 1000))
  | .timestamp t => some (bytesOfInt 8 t.micros)
  | .moment t => some (bytesOfInt 8 t.utc.micros)
  | .json j =>
    let text := j.text.toUTF8.data.toList
    some (if type = .jsonb then 1 :: text else text)

/-- The bytes of a value, or none if it is missing; nothing if it does not fit its type. -/
def encode (type : DataType) (v : Value) : Option (Option Bytes) :=
  if v.isNull then some none else (encodePresent type v).map some

end QueryKit.Postgres
