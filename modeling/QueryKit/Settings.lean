import QueryKit.Dialect
import QueryKit.Duration

/-! Settings of a connection, which the statements made for it inherit. -/

namespace QueryKit

/-- Settings of a connection. -/
structure Settings where
  /-- The dialect of statements that name none of their own. -/
  dialect : Dialect := .generic
  /-- What stands between the name of an embedded record and the names of its fields. -/
  separator : String := "_"
  /-- The time that a call may take. -/
  timeout : Option Duration := none
  /-- The time beyond which a call counts as slow. -/
  slowAfter : Option Duration := none
  /-- The number of bytes of a statement that a log event shows, or no limit. -/
  logLimit : Option Nat := some 200

/-- The dialect of a statement: its own, or else that of the settings. -/
def Settings.resolve (s : Settings) (override : Option Dialect) : Dialect :=
  override.getD s.dialect

end QueryKit
