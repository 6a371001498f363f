import QueryKit.Number.Printer
import QueryKit.Text.Hex

/-! Documents and their compact text. An object holds its members in the order of their names. -/

namespace QueryKit

/-- A document. -/
inductive Json
  | null
  | bool (b : Bool)
  | integer (n : Int)
  | real (x : Double)
  | string (s : String)
  | array (items : List Json)
  | object (members : List (String × Json))

namespace Json

/-- Sets a member, in the place that its name has in the order of names. -/
def setMember (name : String) (value : Json) : List (String × Json) → List (String × Json)
  | [] => [(name, value)]
  | (other, held) :: rest =>
    if name = other then (name, value) :: rest
    else if name < other then (name, value) :: (other, held) :: rest
    else (other, held) :: setMember name value rest

/-- An object from its members; the last of two with one name counts. -/
def ofMembers (members : List (String × Json)) : Json :=
  .object (members.foldl (fun held (name, value) => setMember name value held) [])

def member? (name : String) : Json → Option Json
  | .object members => (members.find? (·.1 == name)).map (·.2)
  | _ => none

mutual

/-- Both documents have the same parts. An integer is not the same as a real number. -/
def same : Json → Json → Bool
  | .null, .null => true
  | .bool a, .bool b => a == b
  | .integer m, .integer n => m == n
  | .real x, .real y => x.same y
  | .string s, .string t => s == t
  | .array items, .array others => sameItems items others
  | .object members, .object others => sameMembers members others
  | _, _ => false

/-- Both lists have the same items in the same order. -/
def sameItems : List Json → List Json → Bool
  | [], [] => true
  | item :: items, other :: others => same item other && sameItems items others
  | _, _ => false

/-- Both lists have the same members in the same order. -/
def sameMembers : List (String × Json) → List (String × Json) → Bool
  | [], [] => true
  | (name, value) :: members, (otherName, other) :: others =>
    name == otherName && same value other && sameMembers members others
  | _, _ => false

end

/-- A character inside a quoted text. Only quotes, backslashes and control characters are
escaped. -/
def escapedChar (c : Char) : List Char :=
  if c == '"' then ['\\', '"']
  else if c == '\\' then ['\\', '\\']
  else if c == '\n' then ['\\', 'n']
  else if c == '\t' then ['\\', 't']
  else if c == '\r' then ['\\', 'r']
  else if c.toNat == 8 then ['\\', 'b']
  else if c.toNat == 12 then ['\\', 'f']
  else if c.toNat < 32 then
    ['\\', 'u', '0', '0', Text.hexDigit (c.toNat / 16), Text.hexDigit (c.toNat % 16)]
  else [c]

/-- A text in quotes. -/
def quotedText (s : String) : List Char :=
  '"' :: s.toList.flatMap escapedChar ++ ['"']

mutual

/-- The compact text of a document. -/
def chars : Json → List Char
  | .null => "null".toList
  | .bool true => "true".toList
  | .bool false => "false".toList
  | .integer n => (toString n).toList
  | .real x => x.toDocumentText.toList
  | .string s => quotedText s
  | .array [] => ['[', ']']
  | .array (item :: items) => '[' :: chars item ++ itemChars items
  | .object [] => ['\x7b', '\x7d']
  | .object ((name, value) :: members) =>
    '\x7b' :: quotedText name ++ ':' :: chars value ++ memberChars members

/-- The further items of an array and its end. -/
def itemChars : List Json → List Char
  | [] => [']']
  | item :: items => ',' :: chars item ++ itemChars items

/-- The further members of an object and its end. -/
def memberChars : List (String × Json) → List Char
  | [] => ['\x7d']
  | (name, value) :: members =>
    ',' :: quotedText name ++ ':' :: chars value ++ memberChars members

end

/-- The compact text of a document. -/
def text (j : Json) : String :=
  String.ofList j.chars

end Json

end QueryKit
