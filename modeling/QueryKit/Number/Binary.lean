/-! Binary floating-point numbers by their bits. A layout fixes the widths of fraction and exponent;
a bit pattern without its sign stands for m · 2^q, an infinity or no number. Rounding goes to the
nearest representable number, a tie to the even pattern, and past the largest one to infinity. -/

namespace QueryKit

/-- The widths of an interchange format: bits after the leading one, and exponent bits. -/
structure BinaryLayout where
  fraction : Nat
  exponent : Nat

namespace BinaryLayout

/-- Sixty-four bits. -/
def double : BinaryLayout := ⟨52, 11⟩

/-- Thirty-two bits. -/
def single : BinaryLayout := ⟨23, 8⟩

/-- The scale of the least positive number. -/
def minScale (l : BinaryLayout) : Int :=
  2 - (Nat.pow 2 (l.exponent - 1) : Int) - l.fraction

/-- The pattern of infinity without its sign. -/
def infinity (l : BinaryLayout) : Nat :=
  (Nat.pow 2 l.exponent - 1) * Nat.pow 2 l.fraction

/-- The pattern of a result that is no number. -/
def quietNaN (l : BinaryLayout) : Nat :=
  l.infinity + Nat.pow 2 (l.fraction - 1)

def signBit (l : BinaryLayout) : Nat :=
  Nat.pow 2 (l.fraction + l.exponent)

end BinaryLayout

/-- What a pattern without its sign stands for. -/
inductive Magnitude
  | notANumber
  | infinite
  | finite (m : Nat) (q : Int)
deriving DecidableEq

/-- The meaning of a pattern without its sign. -/
def BinaryLayout.magnitude (l : BinaryLayout) (pattern : Nat) : Magnitude :=
  let unit := Nat.pow 2 l.fraction
  let e := pattern / unit
  let f := pattern % unit
  if e = Nat.pow 2 l.exponent - 1 then (if f = 0 then .infinite else .notANumber)
  else if e = 0 then .finite f l.minScale
  else .finite (f + unit) (l.minScale + e - 1)

/-- The quotient rounded to the nearest integer, a tie to the even one. -/
def divNearest (num den : Nat) : Nat :=
  let floor := num / den
  let rest := num % den
  if 2 * rest < den then floor
  else if den < 2 * rest then floor + 1
  else if floor % 2 = 0 then floor else floor + 1

/-- The largest k with 2^k at most the quotient of two positive numbers. -/
def floorLog2 (num den : Nat) : Int :=
  let k : Int := (num.log2 : Int) - den.log2
  if den * Nat.pow 2 k.toNat ≤ num * Nat.pow 2 (-k).toNat then k else k - 1

/-- The pattern of the number nearest to a quotient of natural numbers, the divisor positive. -/
def BinaryLayout.roundQuotient (l : BinaryLayout) (num den : Nat) : Nat :=
  if num = 0 then 0
  else
    let q := max l.minScale (floorLog2 num den - l.fraction)
    let m := divNearest (num * Nat.pow 2 (-q).toNat) (den * Nat.pow 2 q.toNat)
    min l.infinity ((q - l.minScale).toNat * Nat.pow 2 l.fraction + m)

/-- The pattern of the number nearest to m · 2^q. -/
def BinaryLayout.roundScaled (l : BinaryLayout) (m : Nat) (q : Int) : Nat :=
  l.roundQuotient (m * Nat.pow 2 q.toNat) (Nat.pow 2 (-q).toNat)

/-- A number of sixty-four bits. -/
structure Double where
  bits : UInt64
deriving DecidableEq

/-- A number of thirty-two bits. -/
structure Single where
  bits : UInt32
deriving DecidableEq

namespace Double

/-- The number with a sign and a pattern. -/
def ofPattern (negative : Bool) (pattern : Nat) : Double :=
  ⟨UInt64.ofNat (if negative then BinaryLayout.double.signBit + pattern else pattern)⟩

def negative (x : Double) : Bool :=
  BinaryLayout.double.signBit ≤ x.bits.toNat

/-- The pattern without the sign. -/
def pattern (x : Double) : Nat :=
  x.bits.toNat % BinaryLayout.double.signBit

/-- The meaning of the pattern without the sign. -/
def magnitude (x : Double) : Magnitude :=
  BinaryLayout.double.magnitude x.pattern

/-- Both stand for the same number. The two zeros are the same, and what is no number is not even the
same as itself. -/
def same (x y : Double) : Bool :=
  x.magnitude != .notANumber && (x.bits == y.bits || (x.pattern == 0 && y.pattern == 0))

/-- The number nearest to an integer. -/
def ofInt (n : Int) : Double :=
  ofPattern (n < 0) (BinaryLayout.double.roundQuotient n.natAbs 1)

/-- The number of the other sign. -/
def neg (x : Double) : Double :=
  ofPattern (!x.negative) x.pattern

/-- The product, correctly rounded. -/
def mul (x y : Double) : Double :=
  ofPattern (x.negative != y.negative) <|
    match x.magnitude, y.magnitude with
    | .notANumber, _ | _, .notANumber => BinaryLayout.double.quietNaN
    | .infinite, .infinite => BinaryLayout.double.infinity
    | .infinite, .finite m _ | .finite m _, .infinite =>
      if m = 0 then BinaryLayout.double.quietNaN else BinaryLayout.double.infinity
    | .finite m q, .finite n r => BinaryLayout.double.roundScaled (m * n) (q + r)

/-- The quotient, correctly rounded. -/
def div (x y : Double) : Double :=
  ofPattern (x.negative != y.negative) <|
    match x.magnitude, y.magnitude with
    | .notANumber, _ | _, .notANumber | .infinite, .infinite => BinaryLayout.double.quietNaN
    | .infinite, .finite _ _ => BinaryLayout.double.infinity
    | .finite _ _, .infinite => 0
    | .finite m q, .finite n r =>
      if n = 0 then
        if m = 0 then BinaryLayout.double.quietNaN else BinaryLayout.double.infinity
      else
        let s := q - r
        BinaryLayout.double.roundQuotient (m * Nat.pow 2 s.toNat) (n * Nat.pow 2 (-s).toNat)

/-- The number nearest to a power of ten. -/
def pow10 (n : Nat) : Double :=
  ofPattern false (BinaryLayout.double.roundQuotient (Nat.pow 10 n) 1)

end Double

namespace Single

/-- The number with a sign and a pattern. -/
def ofPattern (negative : Bool) (pattern : Nat) : Single :=
  ⟨UInt32.ofNat (if negative then BinaryLayout.single.signBit + pattern else pattern)⟩

def negative (x : Single) : Bool :=
  BinaryLayout.single.signBit ≤ x.bits.toNat

/-- The pattern without the sign. -/
def pattern (x : Single) : Nat :=
  x.bits.toNat % BinaryLayout.single.signBit

/-- The number nearest to an integer. -/
def ofInt (n : Int) : Single :=
  ofPattern (n < 0) (BinaryLayout.single.roundQuotient n.natAbs 1)

end Single

/-- The distance between the fraction widths of the two layouts. -/
def fractionGap : Nat :=
  BinaryLayout.double.fraction - BinaryLayout.single.fraction

/-- The nearest number of thirty-two bits. What is no number stays so and becomes quiet. -/
def Double.toSingle (x : Double) : Single :=
  Single.ofPattern x.negative <|
    match x.magnitude with
    | .notANumber =>
      let quiet := Nat.pow 2 (BinaryLayout.double.fraction - 1)
      let payload := x.pattern % quiet / Nat.pow 2 fractionGap
      BinaryLayout.single.quietNaN + payload
    | .infinite => BinaryLayout.single.infinity
    | .finite m q => BinaryLayout.single.roundScaled m q

/-- The same number in sixty-four bits. What is no number stays so and becomes quiet. -/
def Single.toDouble (x : Single) : Double :=
  Double.ofPattern x.negative <|
    match BinaryLayout.single.magnitude x.pattern with
    | .notANumber =>
      let quiet := Nat.pow 2 (BinaryLayout.single.fraction - 1)
      let payload := x.pattern % quiet * Nat.pow 2 fractionGap
      BinaryLayout.double.quietNaN + payload
    | .infinite => BinaryLayout.double.infinity
    | .finite m q => BinaryLayout.double.roundScaled m q

end QueryKit
