/-! The data types of PostgreSQL that values are sent and received at. -/

namespace QueryKit.Postgres

/-- A data type of a parameter or a column. -/
inductive DataType
  | bool
  | int2
  | int4
  | int8
  | oid
  | float4
  | float8
  | text
  | varchar
  | bpchar
  | name
  | bytea
  | uuid
  | date
  | time
  | timestamp
  | timestamptz
  | json
  | jsonb
  /-- A type that is known by its name only. -/
  | other (name : String)
deriving DecidableEq

namespace DataType

/-- The data type with a name. -/
def ofName : String → DataType
  | "bool" => bool
  | "int2" => int2
  | "int4" => int4
  | "int8" => int8
  | "oid" => oid
  | "float4" => float4
  | "float8" => float8
  | "text" => text
  | "varchar" => varchar
  | "bpchar" => bpchar
  | "name" => name
  | "bytea" => bytea
  | "uuid" => uuid
  | "date" => date
  | "time" => time
  | "timestamp" => timestamp
  | "timestamptz" => timestamptz
  | "json" => json
  | "jsonb" => jsonb
  | s => other s

end DataType

end QueryKit.Postgres
