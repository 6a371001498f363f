import QueryKit.Statement

/-! A sheet is a text in the making together with the values that are bound so far. Each placeholder
is numbered by the values before it. -/

namespace QueryKit

/-- The storage of a sheet: bound values and written text. -/
structure Storage where
  values : List Value := []
  text : String := ""

/-- The storage is as good as new. -/
def Storage.IsBlank (s : Storage) : Prop :=
  s.values = [] ∧ s.text = ""

/-- Storage in use for a dialect. -/
structure Sheet extends Storage where
  dialect : Dialect

namespace Sheet

/-- The placeholder of the value bound last. -/
def lastPlaceholder (s : Sheet) : String :=
  s.dialect.placeholder s.values.length

/-- Binds a value and writes nothing. -/
def bind (s : Sheet) (v : Value) : Sheet :=
  { s with values := s.values ++ [v] }

/-- Writes a fragment and binds its operands. -/
def write (s : Sheet) (f : Fragment) : Sheet :=
  { s with
    text := s.text ++ f.render s.dialect s.values.length
    values := s.values ++ f.operands s.dialect }

/-- Forgets the bound values; the text stays. -/
def clear (s : Sheet) : Sheet :=
  { s with values := [] }

def statement (s : Sheet) : Statement :=
  ⟨s.text, s.values, s.dialect⟩

end Sheet

end QueryKit
