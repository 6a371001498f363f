import QueryKit.Record.Field

/-! A catalog of the columns of record types. The columns for a type, a table and a separator are
listed once; later requests get the list that is there. -/

namespace QueryKit

/-- What a list of columns is kept under. -/
structure Catalog.Key (τ : Type) where
  type : τ
  table : String
  separator : String
deriving DecidableEq

/-- The lists of columns requested so far, the latest one in front. A list is shared by its place,
counted from the end. -/
structure Catalog (τ : Type) where
  entries : List (Catalog.Key τ × List Column) := []

/-- A list of columns and its place in the catalog. -/
structure Catalog.Listing where
  place : Nat
  columns : List Column
deriving DecidableEq

namespace Catalog

variable {τ : Type} [DecidableEq τ]

/-- The listing under a key among some entries. -/
def lookup (key : Key τ) : List (Key τ × List Column) → Option Listing
  | [] => none
  | (held, columns) :: rest => if held = key then some ⟨rest.length, columns⟩ else lookup key rest

/-- The columns of a type under a table. The first request for them adds them to the catalog. -/
def request (fields : τ → List Field) (c : Catalog τ) (key : Key τ) : Listing × Catalog τ :=
  match lookup key c.entries with
  | some listing => (listing, c)
  | none =>
    let columns := Field.columns (fields key.type) key.table key.separator
    (⟨c.entries.length, columns⟩, ⟨(key, columns) :: c.entries⟩)

end Catalog

end QueryKit
