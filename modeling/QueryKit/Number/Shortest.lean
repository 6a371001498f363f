import QueryKit.Number.Binary

/-! The shortest decimal that reads back as a given binary number. Of the decimal grids with 1, 2, …
digits at the number's leading digit, the first one with a point among the reals that round to the
number wins; of two such points the nearer, and on a tie the one that the tie rule names. -/

namespace QueryKit

/-- The number digits · 10^scale. -/
structure Decimal where
  digits : Nat
  scale : Int
deriving DecidableEq

/-- Which of two equally near decimals is taken. -/
inductive DecimalTie
  | up
  | even
deriving DecidableEq

/-- Compares c · 10^k with u · 2^s. -/
def compareScales (c : Nat) (k : Int) (u : Nat) (s : Int) : Ordering :=
  compare (c * Nat.pow 10 k.toNat * Nat.pow 2 (-s).toNat)
    (u * Nat.pow 2 s.toNat * Nat.pow 10 (-k).toNat)

/-- The number of decimal digits, with none for zero. -/
def digitCount (n : Nat) : Nat :=
  if n = 0 then 0 else (Nat.toDigits 10 n).length

/-- The largest e with 10^e at most a quotient of positive numbers. -/
def floorLog10 (num den : Nat) : Int :=
  if den ≤ num then digitCount (num / den) - 1 else -(digitCount ((den - 1) / num) : Int)

namespace BinaryLayout

/-- The reals that round to m · 2^q, in quarters of 2^q: the least and the greatest one. The step to
the number below is half as wide when m is the least significand of its scale. -/
def roundingInterval (l : BinaryLayout) (m : Nat) (q : Int) : Nat × Nat :=
  (if m = Nat.pow 2 l.fraction ∧ l.minScale < q then 4 * m - 1 else 4 * m - 2, 4 * m + 2)

/-- The decimal c · 10^k rounds to m · 2^q. The ends of the interval belong to it when m is even. -/
def readsBack (l : BinaryLayout) (m : Nat) (q : Int) (c : Nat) (k : Int) : Bool :=
  let (low, high) := l.roundingInterval m q
  let overLow := compareScales c k low (q - 2)
  let underHigh := compareScales c k high (q - 2)
  if m % 2 = 0 then overLow != .lt && underHigh != .gt else overLow == .gt && underHigh == .lt

/-- The nearer of two neighbours c and c + 1 on the grid of 10^k, by the place of their midpoint. -/
def nearer (tie : DecimalTie) (m : Nat) (q : Int) (c : Nat) (k : Int) : Nat :=
  match compareScales (2 * c + 1) k (2 * m) q with
  | .lt => c + 1
  | .gt => c
  | .eq =>
    match tie with
    | .up => c + 1
    | .even => if c % 2 = 0 then c else c + 1

/-- The point of the grid of 10^k that reads back as m · 2^q, if there is one. -/
def onGrid? (l : BinaryLayout) (tie : DecimalTie) (m : Nat) (q k : Int) : Option Nat :=
  let num := m * Nat.pow 2 q.toNat * Nat.pow 10 (-k).toNat
  let den := Nat.pow 2 (-q).toNat * Nat.pow 10 k.toNat
  let c := num / den
  match l.readsBack m q c k, l.readsBack m q (c + 1) k with
  | true, true => some (nearer tie m q c k)
  | true, false => some c
  | false, true => some (c + 1)
  | false, false => none

/-- The first grid with a point, from the given number of digits on. -/
def searchGrids (l : BinaryLayout) (tie : DecimalTie) (m : Nat) (q lead : Int) (digits : Nat) :
    Nat → Decimal
  | 0 => ⟨m * Nat.pow 2 q.toNat, 0⟩
  | fuel + 1 =>
    let k := lead - digits + 1
    match l.onGrid? tie m q k with
    | some c => ⟨c, k⟩
    | none => searchGrids l tie m q lead (digits + 1) fuel

end BinaryLayout

/-- Drops the zeros at the end of the digits, at most as many as the fuel. -/
def stripZeros (digits : Nat) (scale : Int) : Nat → Decimal
  | 0 => ⟨digits, scale⟩
  | fuel + 1 =>
    if digits % 10 = 0 then stripZeros (digits / 10) (scale + 1) fuel else ⟨digits, scale⟩

/-- The shortest decimal for the positive number m · 2^q of sixty-four bits. Seventeen digits always
suffice. -/
def shortestDecimal (tie : DecimalTie) (m : Nat) (q : Int) : Decimal :=
  let lead := floorLog10 (m * Nat.pow 2 q.toNat) (Nat.pow 2 (-q).toNat)
  let found := BinaryLayout.double.searchGrids tie m q lead 1 17
  stripZeros found.digits found.scale 20

end QueryKit
