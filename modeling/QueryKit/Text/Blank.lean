/-! Blank characters, trimming, and the splitting of a text at blanks or at one character. -/

namespace QueryKit.Text

def isBlank (c : Char) : Bool :=
  let n := c.toNat
  (9 ≤ n && n ≤ 13) || n == 0x20 || n == 0x85 || n == 0xA0 || n == 0x1680 ||
    (0x2000 ≤ n && n ≤ 0x200A) || n == 0x2028 || n == 0x2029 || n == 0x202F || n == 0x205F ||
    n == 0x3000

/-- The characters after the leading blanks. -/
def trimStart (cs : List Char) : List Char :=
  cs.dropWhile isBlank

/-- The characters before the trailing blanks. -/
def trimEnd (cs : List Char) : List Char :=
  (cs.reverse.dropWhile isBlank).reverse

/-- The text without the blanks around it. -/
def trim (s : String) : String :=
  String.ofList (trimEnd (trimStart s.toList))

/-- The text has no character other than blanks. -/
def allBlank (s : String) : Bool :=
  s.toList.all isBlank

/-- The pieces of a text between the occurrences of a character; there is always one. -/
def splitAt (mark : Char) : List Char → List (List Char)
  | [] => [[]]
  | c :: cs =>
    if c == mark then [] :: splitAt mark cs
    else
      match splitAt mark cs with
      | [] => [[c]]
      | piece :: pieces => (c :: piece) :: pieces

theorem splitAt_ne_nil (mark : Char) (cs : List Char) : splitAt mark cs ≠ [] := by
  fun_induction splitAt mark cs <;> simp

/-- There is one piece more than occurrences of the character. -/
theorem length_splitAt (mark : Char) (cs : List Char) :
    (splitAt mark cs).length = cs.count mark + 1 := by
  fun_induction splitAt mark cs with
  | case1 => rfl
  | case2 c cs hc ih => simp_all
  | case3 c cs hc hnil => exact absurd hnil (splitAt_ne_nil mark cs)
  | case4 c cs hc piece pieces hcons ih =>
    rw [hcons] at ih
    simp_all

/-- The pieces with the character between them make up the text. -/
theorem intercalate_splitAt (mark : Char) (cs : List Char) :
    List.intercalate [mark] (splitAt mark cs) = cs := by
  fun_induction splitAt mark cs with
  | case1 => rfl
  | case2 c cs hc ih =>
    rw [List.intercalate_cons_of_ne_nil (splitAt_ne_nil mark cs), ih]
    simp_all
  | case3 c cs hc hnil => exact absurd hnil (splitAt_ne_nil mark cs)
  | case4 c cs hc piece pieces hcons ih =>
    rw [hcons] at ih
    rw [List.intercalate_cons_cons_left, ih]

/-- The pieces of a string between the occurrences of a character. -/
def split (mark : Char) (s : String) : List String :=
  (splitAt mark s.toList).map String.ofList

/-- Words with the word in progress at hand, its last character first. -/
def wordsFrom (word : List Char) : List Char → List String
  | [] => if word.isEmpty then [] else [String.ofList word.reverse]
  | c :: cs =>
    if isBlank c then
      if word.isEmpty then wordsFrom [] cs else String.ofList word.reverse :: wordsFrom [] cs
    else wordsFrom (c :: word) cs

/-- The maximal runs of characters that are not blank. -/
def words (s : String) : List String :=
  wordsFrom [] s.toList

end QueryKit.Text
