/-! Pages of a result: the page number counts from one, and a page has at least one row. -/

namespace QueryKit

/-- A page by its number and its size. -/
structure Page where
  number : UInt64
  size : UInt64
deriving DecidableEq

namespace Page

/-- The page with number and size raised to one. -/
def of (number size : UInt64) : Page :=
  ⟨max number 1, max size 1⟩

/-- The number of rows on the page. -/
def limit (p : Page) : UInt64 :=
  max p.size 1

/-- The number of rows before the page, or the greatest number if there are more. -/
def offset (p : Page) : UInt64 :=
  UInt64.ofNat (min ((max p.number 1).toNat.pred * p.limit.toNat) (UInt64.size - 1))

end Page

end QueryKit
