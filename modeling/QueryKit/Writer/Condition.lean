import QueryKit.Condition
import QueryKit.Sheet

/-! Writers go on with a sheet in the dialect of the sheet. The parts of a group are written first,
each on a text of its own; what has no text is left out of the group, while the values that it bound
stay bound. -/

namespace QueryKit

/-- The texts of the parts of a group as one text: empty ones are left out, and one alone needs no
parentheses. -/
def Junction.group (junction : Junction) (texts : List String) : String :=
  match texts.filter (· ≠ "") with
  | [] => ""
  | [text] => text
  | texts => "(" ++ String.intercalate junction.separator texts ++ ")"

namespace Sheet

def append (s : Sheet) (text : String) : Sheet :=
  { s with text := s.text ++ text }

def name (s : Sheet) (identifier : String) : Sheet :=
  s.append (s.dialect.quote identifier)

/-- Binds a value and writes its placeholder. -/
def operand (s : Sheet) (v : Value) : Sheet :=
  (s.bind v).append (s.bind v).lastPlaceholder

/-- What is written on a text of its own, and the sheet with what was bound. -/
def aside (s : Sheet) (write : Sheet → Sheet) : String × Sheet :=
  let written := write { s with text := "" }
  (written.text, { written with text := s.text })

/-- Writes a text in front of what is written, or nothing if that has no text. -/
def clause (s : Sheet) (keyword : String) (write : Sheet → Sheet) : Sheet :=
  let (text, s) := s.aside write
  if text = "" then s else s.append (keyword ++ text)

def list {α : Type} (write : Sheet → α → Sheet) : Sheet → List α → Sheet
  | s, [] => s
  | s, [x] => write s x
  | s, x :: y :: xs => list write ((write s x).append ", ") (y :: xs)

/-- Writes the parts of a path; a star at its end is not quoted. -/
def path : Sheet → List String → Sheet
  | s, [] => s
  | s, [last] => if last = "*" then s.append "*" else s.name last
  | s, part :: next :: rest => path ((s.name part).append ".") (next :: rest)

def column (s : Sheet) : Column → Sheet
  | .path parts => s.path parts
  | .verbatim expression => s.append expression

/-- Writes a template, with a value at each question mark until there are no more values. -/
def template : Sheet → List Char → List Value → Sheet
  | s, [], _ => s
  | s, '?' :: cs, v :: vs => template (s.operand v) cs vs
  | s, c :: cs, vs => template (s.append (.singleton c)) cs vs

mutual

def compile : Sheet → Condition → Sheet
  | s, .compare column op value => ((s.column column).append op.symbol).operand value
  | s, .compareColumns left op right => ((s.column left).append op.symbol).column right
  | s, .missing column negated =>
    (s.column column).append (if negated then " IS NOT NULL" else " IS NULL")
  | s, .member _ [] negated => s.append (if negated then s.dialect.always else s.dialect.never)
  | s, .member column (v :: vs) negated =>
    (((s.column column).append (if negated then " NOT IN (" else " IN (")).list
      operand (v :: vs)).append ")"
  | s, .between column low high negated =>
    ((((s.column column).append (if negated then " NOT BETWEEN " else " BETWEEN ")).operand
      low).append " AND ").operand high
  | s, .group junction parts =>
    let (texts, s) := s.compileParts junction parts
    s.append (junction.group texts)
  | s, .negation part =>
    let (text, s) := s.aside (·.compile part)
    if text = "" then s else s.append ("NOT (" ++ text ++ ")")
  | s, .verbatim text => s.append (Text.trim text)
  | s, .template text values => s.template text.toList values

/-- The texts of the parts of a group, and the sheet with what they bound. A part that is a group of
the same kind gives the texts of its own parts. -/
def compileParts : Sheet → Junction → List Condition → List String × Sheet
  | s, _, [] => ([], s)
  | s, junction, .group own inner :: cs =>
    let (front, s) := s.compileParts own inner
    let (back, s) := s.compileParts junction cs
    ((if own = junction then front else [own.group front]) ++ back, s)
  | s, junction, c :: cs =>
    let (text, s) := s.aside (·.compile c)
    let (back, s) := s.compileParts junction cs
    (text :: back, s)

end

def compileAll (s : Sheet) (cs : List Condition) : Sheet :=
  let (texts, s) := s.compileParts .and cs
  s.append (Junction.and.group texts)

end Sheet

end QueryKit
