import QueryKit.Text.CaseMap

/-! Naming styles. A name is cut into words at characters that are neither letter nor digit, between
a lower case letter and an upper case one, and before the last capital of a run of capitals that a
lower case letter follows. A style then puts each word in its case and joins the words. -/

namespace QueryKit.Text

/-- The case of the last cased character since the last cut. -/
inductive WordCase
  | none
  | lower
  | upper
deriving DecidableEq

/-- Cuts a run of letters and digits into words. The word in progress is held with its last
character first. -/
def cutWords (word : List Char) (state : WordCase) : List Char → List (List Char)
  | [] => [word.reverse]
  | [c] => [(c :: word).reverse]
  | c :: d :: rest =>
    let next :=
      if isLowercase c then .lower else if isUppercase c then WordCase.upper else state
    if next = .lower && isUppercase d then
      (c :: word).reverse :: cutWords [] .none (d :: rest)
    else if state = .upper && isUppercase c && isLowercase d then
      word.reverse :: cutWords [c] .none (d :: rest)
    else cutWords (c :: word) next (d :: rest)

/-- The maximal runs of letters and digits, with the run in progress held last character first. -/
def alphanumericRuns (run : List Char) : List Char → List (List Char)
  | [] => if run.isEmpty then [] else [run.reverse]
  | c :: cs =>
    if isAlphanumeric c then alphanumericRuns (c :: run) cs
    else if run.isEmpty then alphanumericRuns [] cs
    else run.reverse :: alphanumericRuns [] cs

def nameWords (name : List Char) : List (List Char) :=
  (alphanumericRuns [] name).flatMap (cutWords [] .none)

/-- A word in lower case; a capital sigma that ends it is final. -/
def lowerWord : List Char → List Char
  | [] => []
  | ['Σ'] => ['ς']
  | c :: cs => lowerChar c ++ lowerWord cs

/-- A word with its first character in upper case and the rest in lower case. -/
def capitalWord : List Char → List Char
  | [] => []
  | c :: cs => upperChar c ++ lowerWord cs

/-- A rule that gives a name its style. -/
inductive CaseStyle
  | snake
  | camel
  | pascal
  | screamingSnake
  | lower
  | upper
deriving DecidableEq

def CaseStyle.ofName? : String → Option CaseStyle
  | "snake_case" => some .snake
  | "camelCase" => some .camel
  | "PascalCase" => some .pascal
  | "SCREAMING_SNAKE_CASE" => some .screamingSnake
  | "lowercase" => some .lower
  | "UPPERCASE" => some .upper
  | _ => none

def CaseStyle.apply (style : CaseStyle) (name : String) : String :=
  let cs := name.toList
  let ws := nameWords cs
  String.ofList <|
    match style with
    | .snake => List.intercalate ['_'] (ws.map lowerWord)
    | .camel =>
      match ws with
      | [] => []
      | first :: rest => lowerWord first ++ rest.flatMap capitalWord
    | .pascal => ws.flatMap capitalWord
    | .screamingSnake => List.intercalate ['_'] (ws.map uppercase)
    | .lower => lowercase cs
    | .upper => uppercase cs

end QueryKit.Text
