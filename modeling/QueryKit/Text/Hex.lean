/-! Hexadecimal digits and the text of bytes. -/

namespace QueryKit

/-- A sequence of bytes. -/
abbrev Bytes := List UInt8

namespace Text

/-- The digit of a number below 16, with letters in lower case. -/
def hexDigit (n : Nat) : Char :=
  if n < 10 then Char.ofNat (48 + n) else Char.ofNat (87 + n)

/-- The digit of a number below 16, with letters in upper case. -/
def hexDigitUpper (n : Nat) : Char :=
  if n < 10 then Char.ofNat (48 + n) else Char.ofNat (55 + n)

def hexValue? (c : Char) : Option Nat :=
  if '0' ≤ c ∧ c ≤ '9' then some (c.toNat - 48)
  else if 'a' ≤ c ∧ c ≤ 'f' then some (c.toNat - 87)
  else if 'A' ≤ c ∧ c ≤ 'F' then some (c.toNat - 55)
  else none

/-- Two lower case digits per byte. -/
def hexLower (bytes : Bytes) : List Char :=
  bytes.flatMap fun b => [hexDigit (b.toNat / 16), hexDigit (b.toNat % 16)]

/-- Two upper case digits per byte. -/
def hexUpper (bytes : Bytes) : List Char :=
  bytes.flatMap fun b => [hexDigitUpper (b.toNat / 16), hexDigitUpper (b.toNat % 16)]

/-- The bytes written by pairs of digits, if every pair is complete and valid. -/
def unhex? : List Char → Option Bytes
  | [] => some []
  | [_] => none
  | high :: low :: rest => do
    let h ← hexValue? high
    let l ← hexValue? low
    let bytes ← unhex? rest
    pure (UInt8.ofNat (16 * h + l) :: bytes)

/-- A number in lower case hexadecimal without leading zeros. -/
def hexNumber (n : Nat) : String :=
  String.ofList (Nat.toDigits 16 n)

end Text

end QueryKit
