import QueryKit.Condition
import QueryKit.Pool.Basic

/-! A workbench holds a pool and the sheets taken out of it, in slots with names. -/

namespace QueryKit

/-- A pool and the sheets in use. -/
structure Workbench where
  pool : Pool
  slots : List (String × Sheet) := []

/-- Something done at a workbench. -/
inductive Workbench.Action
  /-- Takes out a sheet; one that is in the slot already is given back afterwards. -/
  | acquire (slot : String) (d : Dialect)
  /-- Binds a value without writing its placeholder. -/
  | bind (slot : String) (v : Value)
  /-- Binds a value and writes its placeholder. -/
  | append (slot : String) (v : Value)
  /-- Writes a text. -/
  | write (slot : String) (text : String)
  /-- Writes a condition. -/
  | condition (slot : String) (c : Condition)
  /-- Forgets the bound values. -/
  | clear (slot : String)
  /-- Takes the statement off the sheet and gives the sheet back. -/
  | finish (slot : String)
  /-- Gives the sheet back. -/
  | release (slot : String)
  /-- Builds a draft on a sheet of its own. -/
  | build (draft : Draft)

/-- The answer to an action. -/
inductive Workbench.Reply
  | done
  | text (s : String)
  | statement (s : Statement)
  | built (r : Except Error Statement)
  /-- The slot holds no sheet. -/
  | emptySlot

namespace Workbench

/-- The sheet in a slot. -/
def sheet? (w : Workbench) (slot : String) : Option Sheet :=
  w.slots.lookup slot

/-- Takes a slot away. -/
def drop (slot : String) (slots : List (String × Sheet)) : List (String × Sheet) :=
  slots.filter fun entry => entry.1 ≠ slot

/-- Puts a sheet into a slot. -/
def put (w : Workbench) (slot : String) (s : Sheet) : Workbench :=
  { w with slots := (slot, s) :: drop slot w.slots }

/-- Changes the sheet in a slot. -/
def change (w : Workbench) (slot : String) (f : Sheet → Sheet) (reply : Sheet → Reply) :
    Reply × Workbench :=
  match w.sheet? slot with
  | none => (.emptySlot, w)
  | some s => (reply (f s), w.put slot (f s))

/-- Takes a sheet, puts it into a slot, and gives back the one that was there. -/
def acquire (w : Workbench) (slot : String) (d : Dialect) : Workbench :=
  let (sheet, pool) := w.pool.acquire d
  let pool := match w.sheet? slot with
    | none => pool
    | some old => pool.giveBack old.toStorage
  { w with pool }.put slot sheet

/-- Empties a slot. -/
def remove (w : Workbench) (slot : String) (reply : Sheet → Reply) : Reply × Workbench :=
  match w.sheet? slot with
  | none => (.emptySlot, w)
  | some s => (reply s, ⟨w.pool.giveBack s.toStorage, drop slot w.slots⟩)

/-- Does one thing. -/
def step (w : Workbench) : Action → Reply × Workbench
  | .acquire slot d => (.done, w.acquire slot d)
  | .bind slot v => w.change slot (·.bind v) fun s => .text s.lastPlaceholder
  | .append slot v => w.change slot (·.write [.operand v]) fun s => .text s.text
  | .write slot text => w.change slot (·.write [.text text]) fun s => .text s.text
  | .condition slot c => w.change slot (·.write c.fragment) fun s => .text s.text
  | .clear slot => w.change slot Sheet.clear fun s => .text s.text
  | .finish slot => w.remove slot fun s => .statement s.statement
  | .release slot => w.remove slot fun _ => .done
  | .build draft =>
    let (result, pool) := w.pool.build draft
    (.built result, { w with pool })

end Workbench

end QueryKit
