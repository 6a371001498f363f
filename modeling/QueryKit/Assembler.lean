import QueryKit.Delete
import QueryKit.Insert
import QueryKit.Select
import QueryKit.Update

/-! Statements of any kind in the making. -/

namespace QueryKit

/-- A statement in the making. -/
inductive Assembler
  | select (q : Select)
  | insert (q : Insert)
  | update (q : Update)
  | delete (q : Delete)

namespace Assembler

def draft : Assembler → Draft
  | select q => q.draft
  | insert q => q.draft
  | update q => q.draft
  | delete q => q.draft

def build (a : Assembler) : Except Error Statement :=
  a.draft.build

def withSettings (s : Settings) : Assembler → Assembler
  | select q => select (q.withSettings s)
  | insert q => insert (q.withSettings s)
  | update q => update (q.withSettings s)
  | delete q => delete (q.withSettings s)

def withDialect (d : Dialect) : Assembler → Assembler
  | select q => select (q.withDialect d)
  | insert q => insert (q.withDialect d)
  | update q => update (q.withDialect d)
  | delete q => delete (q.withDialect d)

def withComment (text : String) : Assembler → Assembler
  | select q => select (q.withComment text)
  | insert q => insert (q.withComment text)
  | update q => update (q.withComment text)
  | delete q => delete (q.withComment text)

/-- Adds a condition on rows, which an INSERT statement does not have. -/
def filter? (c : Condition) : Assembler → Option Assembler
  | select q => some (select (q.filter c))
  | insert _ => none
  | update q => some (update (q.filter c))
  | delete q => some (delete (q.filter c))

/-- Adds a join, which an INSERT statement does not have. -/
def join? (j : Join) : Assembler → Option Assembler
  | select q => some (select (q.join j))
  | insert _ => none
  | update q => some (update (q.join j))
  | delete q => some (delete (q.join j))

end Assembler

end QueryKit
