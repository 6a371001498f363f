import QueryKit.Json.Basic

/-! Reading of documents from their bytes. An error names its line and its column in bytes. Nesting
is limited, the last of two members with one name counts, and a number that is no 64-bit integer is
its significand as a binary number, multiplied or divided by a power of ten. -/

namespace QueryKit

/-- What is wrong with a document. -/
inductive JsonFault
  | endInList
  | endInObject
  | endInString
  | endInValue
  | colon
  | listSeparator
  | objectSeparator
  | word
  | value
  | escape
  | number
  | numberRange
  | codePoint
  | control
  | key
  | surrogate
  | trailingComma
  | trailingText
  | hexEnd
  | depth
deriving DecidableEq

def JsonFault.text : JsonFault → String
  | .endInList => "EOF while parsing a list"
  | .endInObject => "EOF while parsing an object"
  | .endInString => "EOF while parsing a string"
  | .endInValue => "EOF while parsing a value"
  | .colon => "expected `:`"
  | .listSeparator => "expected `,` or `]`"
  | .objectSeparator => "expected `,` or `\x7d`"
  | .word => "expected ident"
  | .value => "expected value"
  | .escape => "invalid escape"
  | .number => "invalid number"
  | .numberRange => "number out of range"
  | .codePoint => "invalid unicode code point"
  | .control => "control character (\\u0000-\\u001F) found while parsing a string"
  | .key => "key must be a string"
  | .surrogate => "lone leading surrogate in hex escape"
  | .trailingComma => "trailing comma"
  | .trailingText => "trailing characters"
  | .hexEnd => "unexpected end of hex escape"
  | .depth => "recursion limit exceeded"

/-- A fault and its place. -/
structure JsonError where
  fault : JsonFault
  line : Nat
  column : Nat
deriving DecidableEq

def JsonError.message (e : JsonError) : String :=
  s!"{e.fault.text} at line {e.line} column {e.column}"

namespace Json

/-- A fault and the number of bytes from its place to the end. -/
structure Stop where
  fault : JsonFault
  remaining : Nat

/-- A step of reading: it takes bytes off the front, or stops. -/
abbrev Scan := StateT Bytes (Except Stop)

def continueAt (bytes : Bytes) : Scan Unit :=
  fun _ => .ok ((), bytes)

/-- Stops at the bytes at hand. -/
def stopHere {α : Type} (fault : JsonFault) : Scan α :=
  fun bytes => .error ⟨fault, bytes.length⟩

/-- Stops behind the next byte. -/
def stopPast {α : Type} (fault : JsonFault) : Scan α :=
  fun bytes => .error ⟨fault, bytes.length - 1⟩

def ascii (c : Char) : UInt8 :=
  UInt8.ofNat c.toNat

def isDigit (b : UInt8) : Bool :=
  ascii '0' ≤ b && b ≤ ascii '9'

def digitValue (b : UInt8) : Nat :=
  b.toNat - 48

/-- Passes over spaces, tabs and line ends. -/
def skipBlanks : Scan Unit :=
  modify (·.dropWhile fun b => b == 32 || b == 9 || b == 10 || b == 13)

/-- The next byte, left in place. -/
def peek? : Scan (Option UInt8) := do
  pure (← get).head?

def skip : Scan Unit :=
  modify (·.drop 1)

/-- Reads the rest of a word whose first letter has been read. -/
def readWord : List Char → Scan Unit
  | [] => pure ()
  | c :: cs => do
    match ← peek? with
    | none => stopHere .endInValue
    | some b =>
      if b == ascii c then do
        skip
        readWord cs
      else stopPast .word

/-- The exponents that a power of ten has as a binary number. -/
def maxPower : Nat := 308

/-- The number with a significand and a power of ten; dividing goes in steps that stay in range. -/
def scaleDouble (x : Double) (exponent : Int) : Nat → Option Double
  | 0 => some x
  | fuel + 1 =>
    if exponent.natAbs ≤ maxPower then
      if 0 ≤ exponent then
        let y := x.mul (Double.pow10 exponent.toNat)
        if y.magnitude = .infinite then none else some y
      else some (x.div (Double.pow10 exponent.natAbs))
    else if x.pattern = 0 then some x
    else if 0 ≤ exponent then none
    else scaleDouble (x.div (Double.pow10 maxPower)) (exponent + maxPower) fuel

/-- The number with a sign, a significand and a power of ten. After a few steps down nothing but
zero is left. -/
def realOf (negative : Bool) (significand : Nat) (exponent : Int) : Scan Json := do
  match scaleDouble (Double.ofInt significand) exponent 5 with
  | some x => pure (.real (if negative then x.neg else x))
  | none => stopHere .numberRange

/-- The greatest exponent that is read as a number. -/
def maxExponent : Nat := 2147483647

/-- Reads the digits of an exponent behind the first one, up to the greatest exponent. The result is
missing if they go beyond it. -/
def exponentDigits (n : Nat) : Bytes → Option Nat × Bytes
  | [] => (some n, [])
  | b :: rest =>
    if isDigit b then
      let next := 10 * n + digitValue b
      if maxExponent < next then (none, rest) else exponentDigits next rest
    else (some n, b :: rest)

/-- The exponent kept within its 32 bits. -/
def clampExponent (n : Int) : Int :=
  max (-2147483648) (min 2147483647 n)

/-- Reads an exponent from its letter on. -/
def readExponent (negative : Bool) (significand : Nat) (start : Int) : Scan Json := do
  skip
  let down ← do
    match ← peek? with
    | some b =>
      if b == ascii '+' then do
        skip
        pure false
      else if b == ascii '-' then do
        skip
        pure true
      else pure false
    | none => pure false
  match ← get with
  | [] => stopHere .endInValue
  | b :: rest =>
    if isDigit b then do
      let (value?, rest) := exponentDigits (digitValue b) rest
      continueAt rest
      match value? with
      | some n =>
        realOf negative significand (clampExponent (if down then start - n else start + n))
      | none =>
        if significand ≠ 0 ∧ !down then stopHere .numberRange
        else do
          modify (·.dropWhile isDigit)
          pure (.real (Double.ofPattern negative 0))
    else stopPast .number

/-- The greatest significand. -/
def maxSignificand : Nat := 18446744073709551615

/-- Takes digits into a significand as long as it stays in range: the significand, the number of
digits taken, and the bytes behind them. -/
def takeDigits (significand taken : Nat) : Bytes → Nat × Nat × Bytes
  | [] => (significand, taken, [])
  | b :: rest =>
    if isDigit b then
      let next := 10 * significand + digitValue b
      if maxSignificand < next then (significand, taken, b :: rest)
      else takeDigits next (taken + 1) rest
    else (significand, taken, b :: rest)

def startsExponent (b : Option UInt8) : Bool :=
  b == some (ascii 'e') || b == some (ascii 'E')

/-- Reads a fraction from its point on. Digits that no longer fit the significand are passed
over. -/
def readFraction (negative : Bool) (significand : Nat) (exponent : Int) : Scan Json := do
  skip
  let (significand, taken, rest) := takeDigits significand 0 (← get)
  continueAt rest
  let more := (rest.head?.map isDigit).getD false
  if taken = 0 ∧ !more then
    stopPast (if rest.isEmpty then .endInValue else .number)
  else do
    modify (·.dropWhile isDigit)
    if startsExponent (← peek?) then readExponent negative significand (exponent - taken)
    else realOf negative significand (exponent - taken)

/-- Reads what follows the digits before the point, when some of them did not fit. -/
def readLong (negative : Bool) (significand : Nat) : Scan Json := do
  let before ← get
  modify (·.dropWhile isDigit)
  let exponent := before.length - (← get).length
  let next ← peek?
  if next == some (ascii '.') then readFraction negative significand exponent
  else if startsExponent next then readExponent negative significand exponent
  else realOf negative significand exponent

/-- Reads what follows the digits before the point. A negative zero is no integer. -/
def readTail (negative : Bool) (significand : Nat) : Scan Json := do
  let next ← peek?
  if next == some (ascii '.') then readFraction negative significand 0
  else if startsExponent next then readExponent negative significand 0
  else if !negative then pure (.integer significand)
  else if significand = 0 ∨ 9223372036854775808 < significand then
    pure (.real (Double.ofInt significand).neg)
  else pure (.integer (-(significand : Int)))

/-- Reads a number from its first digit on. -/
def readNumber (negative : Bool) : Scan Json := do
  match ← get with
  | [] => stopHere .endInValue
  | b :: rest =>
    if b == ascii '0' then do
      skip
      match rest.head? with
      | some c => if isDigit c then stopPast .number else readTail negative 0
      | none => readTail negative 0
    else if isDigit b then do
      let (significand, _, rest) := takeDigits (digitValue b) 1 rest
      continueAt rest
      if (rest.head?.map isDigit).getD false then readLong negative significand
      else readTail negative significand
    else stopPast .number

def hexByte? (b : UInt8) : Option Nat :=
  Text.hexValue? (Char.ofNat b.toNat)

def readHex : Scan Nat := do
  match ← get with
  | a :: b :: c :: d :: rest => do
    continueAt rest
    match hexByte? a, hexByte? b, hexByte? c, hexByte? d with
    | some a, some b, some c, some d => pure (4096 * a + 256 * b + 16 * c + d)
    | _, _, _, _ => stopHere .escape
  | _ => do
    continueAt []
    stopHere .endInString

/-- Reads one byte that has to be there. -/
def readExact (b : UInt8) : Scan Unit := do
  match ← peek? with
  | none => stopHere .endInString
  | some c => if c == b then skip else stopPast .hexEnd

/-- The bytes of a character. -/
def charBytes (code : Nat) : Bytes :=
  (Char.ofNat code).toString.toUTF8.data.toList

/-- Reads a character by its code: four digits, or two times four for a character beyond them. -/
def readCode : Scan Bytes := do
  let n ← readHex
  if 0xDC00 ≤ n ∧ n ≤ 0xDFFF then stopHere .surrogate
  else if n < 0xD800 ∨ 0xDBFF < n then pure (charBytes n)
  else do
    readExact (ascii '\\')
    readExact (ascii 'u')
    let m ← readHex
    if m < 0xDC00 ∨ 0xDFFF < m then stopHere .surrogate
    else pure (charBytes (0x10000 + (n - 0xD800) * 0x400 + (m - 0xDC00)))

/-- Reads an escape behind its backslash. -/
def readEscape : Scan Bytes := do
  match ← get with
  | [] => stopHere .endInString
  | b :: _ => do
    if b == ascii 'u' then do
      skip
      readCode
    else
      let plain : Option UInt8 :=
        if b == ascii '"' || b == ascii '\\' || b == ascii '/' then some b
        else if b == ascii 'b' then some 8
        else if b == ascii 'f' then some 12
        else if b == ascii 'n' then some 10
        else if b == ascii 'r' then some 13
        else if b == ascii 't' then some 9
        else none
      match plain with
      | some c => do
        skip
        pure [c]
      | none => stopPast .escape

/-- Reads a quoted text behind its opening quote; what has been read is held last byte first. -/
def readQuoted (held : Bytes) : Nat → Scan String
  | 0 => stopHere .endInString
  | fuel + 1 => do
    match ← get with
    | [] => stopHere .endInString
    | b :: _ =>
      if b == ascii '"' then do
        skip
        match String.fromUTF8? ⟨held.reverse.toArray⟩ with
        | some s => pure s
        | none => stopHere .codePoint
      else if b == ascii '\\' then do
        skip
        let bytes ← readEscape
        readQuoted (bytes.reverse ++ held) fuel
      else if b < 32 then stopPast .control
      else do
        skip
        readQuoted (b :: held) fuel

/-- The next byte behind blanks, or a stop at the end. -/
def peekPastBlanks (atEnd : JsonFault) : Scan UInt8 := do
  skipBlanks
  match ← peek? with
  | some b => pure b
  | none => stopPast atEnd

mutual

/-- Reads a document, with the number of levels that it may still open. -/
def readValue (depth : Nat) : Nat → Scan Json
  | 0 => stopHere .depth
  | fuel + 1 => do
    let b ← peekPastBlanks .endInValue
    if b == ascii 'n' then do
      skip
      readWord ['u', 'l', 'l']
      pure .null
    else if b == ascii 't' then do
      skip
      readWord ['r', 'u', 'e']
      pure (.bool true)
    else if b == ascii 'f' then do
      skip
      readWord ['a', 'l', 's', 'e']
      pure (.bool false)
    else if b == ascii '-' then do
      skip
      readNumber true
    else if isDigit b then readNumber false
    else if b == ascii '"' then do
      skip
      pure (.string (← readQuoted [] ((← get).length + 1)))
    else if b == ascii '[' then
      if depth ≤ 1 then stopPast .depth
      else do
        skip
        pure (.array (← readItems (depth - 1) true fuel))
    else if b == ascii '\x7b' then
      if depth ≤ 1 then stopPast .depth
      else do
        skip
        pure (.ofMembers (← readMembers (depth - 1) true fuel))
    else stopPast .value

/-- Reads the items of a list up to its end. -/
def readItems (depth : Nat) (first : Bool) : Nat → Scan (List Json)
  | 0 => stopHere .depth
  | fuel + 1 => do
    let b ← peekPastBlanks .endInList
    if b == ascii ']' then do
      skip
      pure []
    else do
      if !first then
        if b == ascii ',' then do
          skip
          let c ← peekPastBlanks .endInValue
          if c == ascii ']' then stopPast .trailingComma
        else stopPast .listSeparator
      let item ← readValue depth fuel
      let items ← readItems depth false fuel
      pure (item :: items)

/-- Reads the members of an object up to its end. -/
def readMembers (depth : Nat) (first : Bool) : Nat → Scan (List (String × Json))
  | 0 => stopHere .depth
  | fuel + 1 => do
    let b ← peekPastBlanks .endInObject
    if b == ascii '\x7d' then do
      skip
      pure []
    else do
      if first then
        if b != ascii '"' then stopPast .key
      else if b == ascii ',' then do
        skip
        let c ← peekPastBlanks .endInValue
        if c == ascii '\x7d' then stopPast .trailingComma
        else if c != ascii '"' then stopPast .key
      else stopPast .objectSeparator
      skip
      let name ← readQuoted [] ((← get).length + 1)
      let c ← peekPastBlanks .endInObject
      if c != ascii ':' then stopPast .colon
      skip
      let value ← readValue depth fuel
      let members ← readMembers depth false fuel
      pure ((name, value) :: members)

end

/-- One more than the number of levels that a document may open. -/
def depthLimit : Nat := 128

def readDocument (size : Nat) : Scan Json := do
  let value ← readValue depthLimit (2 * size + 8)
  skipBlanks
  if (← get).isEmpty then pure value else stopPast .trailingText

/-- The error of a stop, with its place counted in lines and bytes. -/
def Stop.error (bytes : Bytes) (stop : Stop) : JsonError :=
  let before := bytes.take (bytes.length - stop.remaining)
  let lastLine := before.reverse.takeWhile (· != 10)
  ⟨stop.fault, 1 + before.count 10, lastLine.length⟩

def parseBytes (bytes : Bytes) : Except JsonError Json :=
  match (readDocument bytes.length).run bytes with
  | .ok (value, _) => .ok value
  | .error stop => .error (stop.error bytes)

def parse (s : String) : Except JsonError Json :=
  parseBytes s.toUTF8.data.toList

end Json

end QueryKit
