import QueryKit.Number.Shortest

/-! The two texts of a binary number: positional, and with an exponent for very large and very small
numbers. -/

namespace QueryKit

/-- The digits of a natural number. -/
def natDigits (n : Nat) : List Char :=
  Nat.toDigits 10 n

/-- A number of at least the given width, filled with zeros from the left. -/
def padded (width n : Nat) : List Char :=
  let digits := natDigits n
  List.replicate (width - digits.length) '0' ++ digits

namespace Decimal

/-- The exponent of the leading digit. -/
def lead (d : Decimal) : Int :=
  d.scale + (natDigits d.digits).length - 1

/-- The decimal written out without exponent; an integer has no point. -/
def positional (d : Decimal) : List Char :=
  let digits := natDigits d.digits
  if 0 ≤ d.scale then digits ++ List.replicate d.scale.toNat '0'
  else if 0 ≤ d.lead then
    let whole := d.lead.toNat + 1
    digits.take whole ++ '.' :: digits.drop whole
  else '0' :: '.' :: List.replicate (-d.lead - 1).toNat '0' ++ digits

/-- The decimal with one digit before the point and a signed exponent. -/
def scientific (d : Decimal) : List Char :=
  let mantissa :=
    match natDigits d.digits with
    | [] => []
    | [c] => [c]
    | c :: rest => c :: '.' :: rest
  let sign := if d.lead < 0 then '-' else '+'
  mantissa ++ 'e' :: sign :: natDigits d.lead.natAbs

end Decimal

namespace Double

/-- The text of a number in a statement: positional, the shortest that reads back, a tie upwards. -/
def toText (x : Double) : String :=
  let sign := if x.negative then "-" else ""
  match x.magnitude with
  | .notANumber => "NaN"
  | .infinite => sign ++ "inf"
  | .finite 0 _ => sign ++ "0"
  | .finite m q => sign ++ String.ofList (shortestDecimal .up m q).positional

/-- The text of a number in a document: the shortest that reads back, a tie to even. The leading
digit stands between 10^-5 and 10^15 in positional texts, where an integer keeps a zero after the
point. -/
def toDocumentText (x : Double) : String :=
  let sign := if x.negative then "-" else ""
  match x.magnitude with
  | .notANumber | .infinite => "null"
  | .finite 0 _ => sign ++ "0.0"
  | .finite m q =>
    let d := shortestDecimal .even m q
    sign ++ String.ofList (
      if -5 ≤ d.lead ∧ d.lead ≤ 15 then
        if 0 ≤ d.scale then d.positional ++ ['.', '0'] else d.positional
      else d.scientific)

end Double

end QueryKit
