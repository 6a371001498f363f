import QueryKit.Error
import QueryKit.Statement

/-! Drafts of statements. A draft is admitted or refused as a whole, its body is written, the body
is checked once more, and then the tail is written. -/

namespace QueryKit

/-- A statement before its checks. -/
structure Draft where
  dialect : Dialect
  /-- The checks before anything is written. -/
  admission : Except BuildError Unit
  body : Fragment
  /-- The checks after the body is written. -/
  completion : Except BuildError Unit := .ok ()
  tail : Fragment := []

namespace Draft

def fragment (d : Draft) : Fragment :=
  d.body ++ d.tail

/-- The finished statement, if all checks pass. -/
def build (d : Draft) : Except Error Statement := do
  d.admission.mapError .build
  d.completion.mapError .build
  pure (.ofFragment d.dialect d.fragment)

end Draft

end QueryKit
