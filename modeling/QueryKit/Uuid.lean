import QueryKit.Text.Blank
import QueryKit.Text.Hex

/-! Universally unique identifiers: sixteen bytes, written in five groups of hexadecimal digits. The
text may lack its hyphens, stand in braces or follow a resource name scheme. -/

namespace QueryKit

/-- An identifier. -/
structure Uuid where
  bytes : Vector UInt8 16
deriving DecidableEq

/-- Why a text is no identifier. -/
inductive UuidError
  | character (c : Char) (index : Nat)
  | length (found : Nat)
  | groupCount (found : Nat)
  | groupLength (group expected found : Nat)
deriving DecidableEq

def UuidError.message : UuidError → String
  | .character c i => s!"invalid character: found `{c}` at {i}"
  | .length n => s!"invalid length: found {n}"
  | .groupCount n => s!"invalid group count: expected 5, found {n}"
  | .groupLength g e n => s!"invalid group length in group {g}: expected {e}, found {n}"

namespace Uuid

/-- The identifier with the given bytes, if there are sixteen. -/
def ofBytes? (bytes : Bytes) : Option Uuid :=
  if h : bytes.length = 16 then some ⟨⟨bytes.toArray, by simpa using h⟩⟩ else none

/-- The identifier without any bit set. -/
def zero : Uuid := ⟨Vector.replicate 16 0⟩

def toList (u : Uuid) : Bytes :=
  u.bytes.toList

/-- Groups of 8, 4, 4, 4 and 12 lower case digits with hyphens between them. -/
def text (u : Uuid) : String :=
  let digits := Text.hexLower u.toList
  let group (start size : Nat) := (digits.drop start).take size
  String.ofList (List.intercalate ['-'] [group 0 8, group 8 4, group 12 4, group 16 4, group 20 12])

/-- The length of a text in bytes. -/
def byteLength (cs : List Char) : Nat :=
  (String.ofList cs).utf8ByteSize

/-- The number of digits in each group. -/
def groupSizes : List Nat := [8, 4, 4, 4, 12]

/-- The bytes of a text in five groups. -/
def ofGroups? (cs : List Char) : Option Uuid :=
  let gs := Text.splitAt '-' cs
  if gs.map List.length = groupSizes then do
    ofBytes? (← Text.unhex? gs.flatten)
  else none

/-- The text inside braces. -/
def braced? : List Char → Option (List Char)
  | '{' :: rest => if rest.getLast? = some '}' then some rest.dropLast else none
  | _ => none

/-- The text after the resource name scheme, which may be in either case. -/
def schemed? (cs : List Char) : Option (List Char) :=
  if (cs.take 9).map Char.toLower = "urn:uuid:".toList then some (cs.drop 9) else none

/-- The part of a text that is read in five groups: the whole text, or what stands in braces or
after the scheme, if it fills the thirty-six places. -/
def grouped? (cs : List Char) : Option (List Char) :=
  if byteLength cs = 36 then some cs
  else ((braced? cs).or (schemed? cs)).filter fun inner => byteLength inner = 36

/-- The identifier that a text spells, if it is written in one of the accepted ways. -/
def read? (cs : List Char) : Option Uuid :=
  if byteLength cs = 32 then (Text.unhex? cs).bind ofBytes? else (grouped? cs).bind ofGroups?

/-- The first character that is neither hyphen nor digit, with its place in bytes. -/
def firstStranger (place : Nat) : List Char → Option (Char × Nat)
  | [] => none
  | c :: cs =>
    if c == '-' || (Text.hexValue? c).isSome then firstStranger (place + c.utf8Size) cs
    else some (c, place)

/-- The first of five groups with the wrong number of digits, from the given one on. The last group
is measured to the end of the whole text. -/
def wrongGroup (whole index : Nat) : List (List Char) → List Nat → UuidError
  | g :: h :: gs, size :: sizes =>
    if g.length = size then wrongGroup whole (index + 1) (h :: gs) sizes
    else .groupLength index size g.length
  | _, _ => .groupLength 4 12 (whole - 24)

/-- What is wrong with the groups of a text of the given length, which start at a place in it: a
character, else the number of groups, else the length of one of them. -/
def groupFault (whole start : Nat) (cs : List Char) : UuidError :=
  match firstStranger start cs with
  | some (c, place) => .character c place
  | none =>
    let gs := Text.splitAt '-' cs
    if gs.length = 5 then wrongGroup whole 0 gs groupSizes else .groupCount gs.length

/-- The length of the longest text of an identifier. -/
def maxLength : Nat := 45

/-- What is wrong with a text that is no identifier. A text that is too long is not looked into, and
one without hyphens, braces or scheme has the wrong length if all its characters are digits. -/
def fault (cs : List Char) : UuidError :=
  let whole := byteLength cs
  if maxLength < whole then .length whole
  else
    match grouped? cs, braced? cs, schemed? cs with
    | some inner, _, _ => groupFault whole 0 inner
    | none, some inner, _ => groupFault whole 1 inner
    | none, none, some inner => groupFault whole 9 inner
    | none, none, none =>
      if cs.all fun c => (Text.hexValue? c).isSome then .length whole else groupFault whole 0 cs

def parse (s : String) : Except UuidError Uuid :=
  match read? s.toList with
  | some u => .ok u
  | none => .error (fault s.toList)

end Uuid

end QueryKit
