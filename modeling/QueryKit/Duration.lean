import QueryKit.Number.Printer

/-! Lengths of time in nanoseconds and their short text. -/

namespace QueryKit

/-- A length of time. -/
structure Duration where
  nanos : Nat
deriving DecidableEq

namespace Duration

/-- A number of milliseconds. -/
def ofMillis (n : Nat) : Duration := ⟨n * 1000000⟩

def toMillis (d : Duration) : Double :=
  Double.ofPattern false (BinaryLayout.double.roundQuotient d.nanos 1000000)

/-- Digits after the point for a rest of a unit of 10^places, without the zeros at the end. -/
def fractionDigits (rest places : Nat) : List Char :=
  ((padded places rest).reverse.dropWhile (· == '0')).reverse

/-- A count of units of 10^places nanoseconds. -/
def inUnit (nanos places : Nat) (name : String) : String :=
  let fraction := fractionDigits (nanos % Nat.pow 10 places) places
  let point := if fraction.isEmpty then [] else ['.']
  String.ofList (natDigits (nanos / Nat.pow 10 places) ++ point ++ fraction) ++ name

/-- The length in the largest unit that it fills. -/
def text (d : Duration) : String :=
  if 1000000000 ≤ d.nanos then inUnit d.nanos 9 "s"
  else if 1000000 ≤ d.nanos then inUnit d.nanos 6 "ms"
  else if 1000 ≤ d.nanos then inUnit d.nanos 3 "µs"
  else inUnit d.nanos 0 "ns"

end Duration

end QueryKit
