import QueryKit.Text.Hex
import QueryKit.Text.Printable

/-! A text between double quotes, with the characters that cannot be shown written as escapes. -/

namespace QueryKit.Text

/-- A character by its code point. -/
def escapedCode (c : Char) : String :=
  "\\u\x7b" ++ hexNumber c.toNat ++ "\x7d"

/-- A character inside double quotes. -/
def quotedChar (c : Char) : String :=
  if c == '"' then "\\\""
  else if c == '\\' then "\\\\"
  else if c == '\n' then "\\n"
  else if c == '\r' then "\\r"
  else if c == '\t' then "\\t"
  else if c.toNat == 0 then "\\0"
  else if isExtending c || !isPrintable c then escapedCode c
  else c.toString

/-- The text between double quotes. -/
def quoted (s : String) : String :=
  "\"" ++ String.join (s.toList.map quotedChar) ++ "\""

end QueryKit.Text
