import QueryKit.Fragment

/-! A statement: its text and the operands of its placeholders, in their order. For reading, the
operands can be written into the text as literals. -/

namespace QueryKit

/-- A statement in a dialect. The operand at place n belongs to the placeholder with number n. -/
structure Statement where
  text : String
  operands : List Value
  dialect : Dialect

namespace Statement

/-- Both statements have the same text, the same operands and a dialect of the same name. -/
def same (s t : Statement) : Bool :=
  s.text == t.text && s.operands.isEqv t.operands Value.same && s.dialect.name == t.dialect.name

def ofFragment (d : Dialect) (f : Fragment) : Statement :=
  ⟨f.render d 0, f.operands d, d⟩

/-- What follows a text at the front of another, if it is there. -/
def afterFront? : List Char → List Char → Option (List Char)
  | [], cs => some cs
  | _ :: _, [] => none
  | f :: fs, c :: cs => if f = c then afterFront? fs cs else none

/-- What follows a placeholder at the front of a text. A placeholder of several characters ends
where no digit follows. -/
def afterPlaceholder? (placeholder cs : List Char) : Option (List Char) :=
  match afterFront? placeholder cs with
  | some rest =>
    if 1 < (String.ofList placeholder).utf8ByteSize && (rest.head?.map Char.isDigit).getD false then
      none
    else some rest
  | none => none

theorem length_afterFront? {front cs rest : List Char} (h : afterFront? front cs = some rest) :
    rest.length ≤ cs.length := by
  fun_induction afterFront? front cs <;> grind

theorem length_afterPlaceholder? {placeholder cs rest : List Char}
    (h : afterPlaceholder? placeholder cs = some rest) : rest.length ≤ cs.length := by
  unfold afterPlaceholder? at h
  split at h
  · rename_i found
    split at h
    · contradiction
    · exact Option.some.inj h ▸ length_afterFront? found
  · contradiction

/-- Writes operands into a text at the places of their placeholders outside of literals, from the
placeholder with the given number on. -/
def splice (d : Dialect) (number : Nat) (inLiteral : Bool) (cs : List Char) (vs : List Value) :
    List Char :=
  match cs, vs with
  | [], _ => []
  | c :: cs, [] => c :: cs
  | c :: cs, v :: vs =>
    if c = '\'' then c :: splice d number (!inLiteral) cs (v :: vs)
    else if inLiteral then c :: splice d number inLiteral cs (v :: vs)
    else
      match _found : afterPlaceholder? (d.placeholder number).toList (c :: cs) with
      | some rest => v.inlineChars ++ splice d (number + 1) inLiteral rest vs
      | none => c :: splice d number inLiteral cs (v :: vs)
termination_by cs.length + vs.length
decreasing_by
  all_goals try simp only [List.length_cons]; omega
  have := length_afterPlaceholder? _found
  simp only [List.length_cons] at *
  omega

/-- The text with its operands written as literals, for reading only. -/
def interpolate (s : Statement) : String :=
  String.ofList (splice s.dialect 1 false s.text.toList s.operands)

end Statement

end QueryKit
