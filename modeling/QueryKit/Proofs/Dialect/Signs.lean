import QueryKit.Fragment

/-! Signs: the tokens of a statement without their values, each placeholder with its number. A
dialect writes a list of signs one by one, and placeholders are numbered alike in all dialects. -/

namespace QueryKit

inductive Sign
  | text (s : String)
  | name (s : String)
  | placeholder (number : Nat)
  | never
  | always
  | window (limit offset : Option UInt64)
  /-- The clause for a page by the number of the first of its two placeholders. -/
  | page (first : Nat)

namespace Sign

/-- The sign as the dialect writes it. -/
def write (d : Dialect) : Sign → String
  | text s => s
  | name s => d.quote s
  | placeholder number => d.placeholder number
  | never => d.never
  | always => d.always
  | window limit offset => d.window limit offset
  | page first =>
    if d.offsetFetch then
      " OFFSET " ++ d.placeholder first ++ " ROWS FETCH NEXT " ++ d.placeholder (first + 1) ++
        " ROWS ONLY"
    else " LIMIT " ++ d.placeholder first ++ " OFFSET " ++ d.placeholder (first + 1)

def writeAll (d : Dialect) : List Sign → String
  | [] => ""
  | s :: ss => s.write d ++ writeAll d ss

end Sign

namespace Token

/-- The number of operands, which is the same in every dialect. -/
def width : Token → Nat
  | operand _ => 1
  | page _ => 2
  | _ => 0

/-- The sign of the token behind a number of operands. -/
def sign (bound : Nat) : Token → Sign
  | text s => .text s
  | name s => .name s
  | operand _ => .placeholder (bound + 1)
  | marker number => .placeholder number
  | never => .never
  | always => .always
  | window limit offset => .window limit offset
  | page _ => .page (bound + 1)

theorem length_operands (d : Dialect) (t : Token) : (t.operands d).length = t.width := by
  cases t with
  | page p => by_cases h : d.offsetFetch <;> simp [operands, width, h]
  | _ => rfl

theorem write_sign (d : Dialect) (bound : Nat) (t : Token) :
    (t.sign bound).write d = t.render d bound := by
  cases t <;> rfl

end Token

namespace Fragment

def signs (bound : Nat) : Fragment → List Sign
  | [] => []
  | t :: ts => t.sign bound :: signs (bound + t.width) ts

/-- The text of a fragment in any dialect is that of its signs. -/
theorem writeAll_signs (d : Dialect) (bound : Nat) (f : Fragment) :
    Sign.writeAll d (f.signs bound) = f.render d bound := by
  induction f generalizing bound with
  | nil => rfl
  | cons t ts ih => rw [signs, Sign.writeAll, ih, t.write_sign, render, t.length_operands]

end Fragment

end QueryKit
