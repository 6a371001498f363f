/-! A dialect is what differs between database engines in the text of a statement: the quoting of
identifiers, the placeholders, the limit and offset clause, two constant predicates, and whether a
statement may return the rows it changes. Of the quoting a dialect chooses the quotes alone; how an
identifier is put between them is the same for all. -/

namespace QueryKit

/-- The rules of one engine. What is not given follows the standard. -/
structure Dialect where
  name : String
  /-- The characters around an identifier, or none if identifiers are written bare. A dialect that
  quotes in a way of its own, which none of the library does, is not one of these. -/
  quotes : Option (Char × Char) := some ('"', '"')
  /-- The placeholder of an operand by its number, counted from one. -/
  placeholder : Nat → String := fun _ => "?"
  /-- The clause for a limit and an offset, with the space before it. -/
  window : Option UInt64 → Option UInt64 → String := fun limit offset =>
    (match limit with
      | some n => s!" LIMIT {n}"
      | none => "") ++
    (match offset with
      | some n => s!" OFFSET {n}"
      | none => "")
  /-- Pages are written as an offset and a number of rows to fetch. -/
  offsetFetch : Bool := false
  /-- A predicate that never holds. -/
  never : String := "1=0"
  /-- A predicate that always holds. -/
  always : String := "1=1"
  /-- Statements may return the rows they change. -/
  returning : Bool := false

namespace Dialect

/-- Bare identifiers and plain placeholders. -/
def generic : Dialect where
  name := "generic"
  quotes := none

/-- A clause whose limit cannot be left out before an offset. -/
def windowWithLimit (unlimited : String) (limit offset : Option UInt64) : String :=
  match limit, offset with
  | some l, some o => s!" LIMIT {l} OFFSET {o}"
  | some l, none => s!" LIMIT {l}"
  | none, some o => s!" LIMIT {unlimited} OFFSET {o}"
  | none, none => ""

/-- MySQL. -/
def mysql : Dialect where
  name := "mysql"
  quotes := some ('\x60', '\x60')
  window := windowWithLimit "18446744073709551615"

/-- PostgreSQL. -/
def postgres : Dialect where
  name := "postgres"
  placeholder n := s!"${n}"
  returning := true

/-- SQLite. -/
def sqlite : Dialect where
  name := "sqlite"
  window := windowWithLimit "-1"
  returning := true

/-- A clause that starts with its offset. -/
def windowByFetch (limit offset : Option UInt64) : String :=
  match limit, offset with
  | none, none => ""
  | none, some o => s!" OFFSET {o} ROWS"
  | some l, o => s!" OFFSET {o.getD 0} ROWS FETCH NEXT {l} ROWS ONLY"

/-- SQL Server. -/
def sqlserver : Dialect where
  name := "sqlserver"
  quotes := some ('[', ']')
  placeholder n := s!"@p{n}"
  window := windowByFetch
  offsetFetch := true

/-- The dialects of the library. -/
def builtins : List Dialect :=
  [generic, mysql, postgres, sqlite, sqlserver]

/-- The characters of an identifier inside its quotes: the closing quote is written twice. -/
def doubled (close : Char) (cs : List Char) : List Char :=
  cs.flatMap fun c => if c = close then [close, close] else [c]

/-- The characters of an identifier with its quotes. -/
def quoteChars (d : Dialect) (cs : List Char) : List Char :=
  match d.quotes with
  | none => cs
  | some (start, close) => start :: doubled close cs ++ [close]

/-- An identifier as it is written, by the rule that every dialect of the library keeps. -/
def quote (d : Dialect) (identifier : String) : String :=
  String.ofList (d.quoteChars identifier.toList)

end Dialect

end QueryKit
