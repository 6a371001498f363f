import QueryKit.Draft
import QueryKit.Sheet

/-! Pools of storage. A sheet is taken out of the pool with storage from there, and its storage
comes back blank, unless the pool holds as much as it may. -/

namespace QueryKit

/-- Idle storage, of which the pool keeps a limited number of entries. -/
structure Pool where
  limit : Nat
  /-- The idle entries, the one given back last in front. -/
  idle : List Storage := []

namespace Pool

/-- Takes out a sheet for a dialect. -/
def acquire (p : Pool) (d : Dialect) : Sheet × Pool :=
  match p.idle with
  | [] => ({ dialect := d }, p)
  | s :: rest => ({ s with dialect := d }, { p with idle := rest })

/-- Gives storage back, without what it holds. -/
def giveBack (p : Pool) (s : Storage) : Pool :=
  let blank : Storage := { s with values := [], text := "" }
  if p.idle.length < p.limit then { p with idle := blank :: p.idle } else p

/-- The statement on a sheet, which is then given back. -/
def finish (p : Pool) (s : Sheet) : Statement × Pool :=
  (s.statement, p.giveBack s.toStorage)

/-- Builds a draft on a sheet of the pool. The sheet is given back whether the build succeeds or
not. -/
def build (p : Pool) (draft : Draft) : Except Error Statement × Pool :=
  match draft.admission with
  | .error cause => (.error (.build cause), p)
  | .ok () =>
    let (sheet, p) := p.acquire draft.dialect
    let sheet := sheet.write draft.body
    match draft.completion with
    | .error cause => (.error (.build cause), p.giveBack sheet.toStorage)
    | .ok () =>
      let (statement, p) := p.finish (sheet.write draft.tail)
      (.ok statement, p)

end Pool

end QueryKit
