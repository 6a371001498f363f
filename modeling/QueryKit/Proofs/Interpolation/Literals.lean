import QueryKit.Proofs.Identifier
import QueryKit.Proofs.Interpolation.Holes

/-! Literals of values. What a literal holds is read back from it, whether it is a text, a document
or bytes, and the reading stops where the literal does. Interpolation writes every literal outside of
the others, so of a text, a document or bytes it writes nothing that stands outside of literals. -/

namespace QueryKit

/-! ### Pairs of digits -/

namespace Text

theorem hexValue?_hexDigitUpper : ∀ n < 16, hexValue? (hexDigitUpper n) = some n := by
  decide

theorem unhex?_hexUpper (bytes : Bytes) : unhex? (hexUpper bytes) = some bytes := by
  induction bytes with
  | nil => rfl
  | cons byte bytes ih =>
    have hsize : byte.toNat < 256 := byte.toNat_lt
    have hhigh := hexValue?_hexDigitUpper (byte.toNat / 16) (by omega)
    have hlow := hexValue?_hexDigitUpper (byte.toNat % 16) (by omega)
    have hbyte : UInt8.ofNat (16 * (byte.toNat / 16) + byte.toNat % 16) = byte := by
      rw [Nat.div_add_mod, UInt8.ofNat_toNat]
    show unhex? (hexDigitUpper _ :: hexDigitUpper _ :: hexUpper bytes) = _
    rw [unhex?, hhigh, hlow, ih]
    exact congrArg (fun b => some (b :: bytes)) hbyte

theorem apostrophe_notMem_hexUpper (bytes : Bytes) : '\'' ∉ hexUpper bytes := by
  intro h
  obtain ⟨byte, -, hmem⟩ := List.mem_flatMap.mp h
  have hsize : byte.toNat < 256 := byte.toNat_lt
  have hdigit : ∀ n < 16, '\'' ≠ hexDigitUpper n := by decide
  simp only [List.mem_cons, List.not_mem_nil, or_false] at hmem
  rcases hmem with hhigh | hlow
  · exact hdigit _ (by omega) hhigh
  · exact hdigit _ (by omega) hlow

end Text

/-! ### Reading literals -/

namespace Value

theorem literal_of_notMem {cs : List Char} (h : '\'' ∉ cs) :
    literal cs = '\'' :: cs ++ ['\''] := by
  have hbody : cs.flatMap literalChar = cs := by
    induction cs with
    | nil => rfl
    | cons c cs ih =>
      obtain ⟨hc, hcs⟩ : '\'' ≠ c ∧ '\'' ∉ cs := by simpa using h
      simp [literalChar, hc.symm, ih hcs]
  rw [literal, hbody]

theorem inlineChars_bytes (b : Bytes) :
    (bytes b).inlineChars = 'X' :: literal (Text.hexUpper b) := by
  rw [literal_of_notMem (Text.apostrophe_notMem_hexUpper b)]
  rfl

end Value

namespace Literal

/-- The text of the literal at the front, and what follows it. Two apostrophes stand for one. -/
def readText (cs : List Char) : Option (String × List Char) :=
  Identifier.read '\'' '\'' cs

/-- The bytes of the literal at the front, and what follows it. -/
def readBytes : List Char → Option (Bytes × List Char)
  | 'X' :: cs => do
    let (digits, rest) ← readText cs
    let bytes ← Text.unhex? digits.toList
    pure (bytes, rest)
  | _ => none

variable {rest : List Char} (hr : rest.head? ≠ some '\'')
include hr

theorem readText_literal (cs : List Char) :
    readText (Value.literal cs ++ rest) = some (String.ofList cs, rest) := by
  have hliteral : Value.literal cs ++ rest =
      '\'' :: (Dialect.doubled '\'' cs ++ '\'' :: rest) := by
    rw [Value.literal, List.append_assoc]
    rfl
  rw [hliteral, readText, Identifier.read, if_pos rfl, Identifier.readBody_doubled hr]
  rfl

theorem readBytes_inlineChars (b : Bytes) :
    readBytes ((Value.bytes b).inlineChars ++ rest) = some (b, rest) := by
  rw [Value.inlineChars_bytes, List.cons_append, readBytes, readText_literal hr]
  simp [Text.unhex?_hexUpper]

end Literal

/-! ### Characters outside of literals -/

namespace Text

theorem outside_append_of_notMem {cs : List Char} (h : '\'' ∉ cs) (rest : List Char) :
    outside false (cs ++ rest) = cs ++ outside false rest := by
  induction cs with
  | nil => rfl
  | cons c cs ih =>
    obtain ⟨hc, hcs⟩ : '\'' ≠ c ∧ '\'' ∉ cs := by simpa using h
    simp [outside, hc.symm, ih hcs]

theorem outside_literal (cs rest : List Char) :
    outside false (Value.literal cs ++ rest) = outside false rest := by
  have hbody : outside true (cs.flatMap Value.literalChar ++ '\'' :: rest) = outside false rest := by
    induction cs with
    | nil => rfl
    | cons c cs ih =>
      -- Of two apostrophes one leaves the literal and the other one enters it again.
      by_cases hc : c = '\''
      · simpa [Value.literalChar, outside, hc] using ih
      · simpa [Value.literalChar, outside, hc] using ih
  simpa [Value.literal, outside] using hbody

end Text

theorem apostrophe_notMem_natDigits (n : Nat) : '\'' ∉ natDigits n := by
  intro h
  have := Nat.isDigit_of_mem_toDigits (b := 10) (by decide) (by decide) h
  contradiction

theorem apostrophe_notMem_int (n : Int) : '\'' ∉ (toString n).toList := by
  have hdigits := apostrophe_notMem_natDigits n.natAbs
  rcases toList_toString_int n with hn | hn
  · rwa [hn]
  · rw [hn]
    exact List.not_mem_cons_of_ne_of_not_mem (by decide) hdigits

theorem apostrophe_notMem_positional (x : Decimal) : '\'' ∉ x.positional := by
  have hdigits := apostrophe_notMem_natDigits x.digits
  unfold Decimal.positional
  split
  · simp [hdigits]
  · split
    · simp [mt List.mem_of_mem_take hdigits, mt List.mem_of_mem_drop hdigits]
    · simp [hdigits]

theorem apostrophe_notMem_float (x : Double) : '\'' ∉ x.toText.toList :=
  Double.toText_cases (P := fun cs => '\'' ∉ cs) (by decide) (by decide) (by decide)
    apostrophe_notMem_positional
    (fun _ hcs => List.not_mem_cons_of_ne_of_not_mem (by decide) hcs) x

namespace Value

/-- What of the literal of a value stands outside of apostrophes. -/
def bare : Value → List Char
  | null => "NULL".toList
  | bool true => "TRUE".toList
  | bool false => "FALSE".toList
  | int n => (toString n.toInt).toList
  | float x => x.toText.toList
  | bytes _ => ['X']
  | text _ | json _ | uuid _ | date _ | time _ | timestamp _ | moment _ => []

theorem outside_inlineChars (v : Value) (rest : List Char) :
    Text.outside false (v.inlineChars ++ rest) = v.bare ++ Text.outside false rest := by
  cases v with
  | null => exact Text.outside_append_of_notMem (by decide) rest
  | bool b => cases b <;> exact Text.outside_append_of_notMem (by decide) rest
  | int n => exact Text.outside_append_of_notMem (apostrophe_notMem_int n.toInt) rest
  | float x => exact Text.outside_append_of_notMem (apostrophe_notMem_float x) rest
  | bytes b =>
    rw [inlineChars_bytes, List.cons_append, Text.outside, if_neg (by decide),
      if_neg (by decide), Text.outside_literal]
    rfl
  | _ => exact Text.outside_literal _ rest

end Value

/-! ### Interpolated statements -/

namespace Holed

/-- Every text in front of a hole ends outside of literals, given whether the first one starts in
one. -/
def Closes (inside : Bool) : Holed → Prop
  | plain _ => True
  | hole text _ rest => Text.inLiteral inside text.toList = false ∧ rest.Closes false

/-- What stands outside of literals once the values are written into their holes. -/
def bare : Holed → List Char
  | plain text => Text.outside false text.toList
  | hole text v rest => Text.outside false text.toList ++ v.bare ++ rest.bare

theorem outside_inlined {h : Holed} (hc : h.Closes false) :
    Text.outside false h.inlined.toList = h.bare := by
  induction h with
  | plain text => rfl
  | hole text v rest ih =>
    obtain ⟨htext, hrest⟩ := hc
    simp only [inlined, Value.inline, String.toList_append, String.toList_ofList, List.append_assoc]
    rw [Text.outside_append, htext, v.outside_inlineChars, ih hrest, bare, List.append_assoc]

/-- What a scanner found that has met a number of placeholders and goes on through a text: with the
next placeholders in its holes it is that text, and with the first operands what the scanner writes. -/
structure Traces (h : Holed) (d : Dialect) (bound : Nat) (inside : Bool) (cs : List Char)
    (vs : List Value) (written : List Char) : Prop where
  text : (h.fill d bound).toList = cs
  operands : h.values <+: vs
  written : h.inlined.toList = written
  closes : h.Closes inside

variable {d : Dialect} {bound : Nat} {inside inside' : Bool} {cs written : List Char}
  {vs : List Value} {h : Holed}

theorem traces_plain (cs : List Char) : (plain (.ofList cs)).Traces d bound inside cs vs cs :=
  ⟨String.toList_ofList, List.nil_prefix, String.toList_ofList, trivial⟩

theorem Traces.cons {c : Char} (hc : Text.inLiteral inside [c] = inside')
    (ht : h.Traces d bound inside' cs vs written) :
    ((plain (.singleton c)).append h).Traces d bound inside (c :: cs) vs (c :: written) := by
  obtain ⟨rfl, hoperands, rfl, hcloses⟩ := ht
  refine ⟨?_, ?_, ?_, ?_⟩
  · simp [fill_append, fill, values]
  · simpa [values] using hoperands
  · cases h <;> simp [append, inlined]
  · cases h with
    | plain text => trivial
    | hole text v rest =>
      refine ⟨?_, hcloses.2⟩
      rw [String.toList_append, String.toList_singleton, Text.inLiteral_append, hc, hcloses.1]

theorem Traces.hole {v : Value} (ht : h.Traces d (bound + 1) false cs vs written) :
    (Holed.hole "" v h).Traces d bound false ((d.placeholder (bound + 1)).toList ++ cs) (v :: vs)
      (v.inlineChars ++ written) := by
  obtain ⟨rfl, hoperands, rfl, hcloses⟩ := ht
  refine ⟨?_, ?_, ?_, rfl, hcloses⟩
  · simp [fill]
  · exact List.cons_prefix_cons.mpr ⟨rfl, hoperands⟩
  · simp [inlined, Value.inline]

/-- Whatever the scanner reads, it finds holes outside of literals. -/
theorem exists_traces (d : Dialect) (bound : Nat) (inside : Bool) (cs : List Char)
    (vs : List Value) :
    ∃ h : Holed, h.Traces d bound inside cs vs (Statement.splice d (bound + 1) inside cs vs) := by
  generalize hnumber : bound + 1 = number
  fun_induction Statement.splice d number inside cs vs generalizing bound with
  | case1 number inside vs => exact ⟨_, traces_plain []⟩
  | case2 number inside c cs => exact ⟨_, traces_plain (c :: cs)⟩
  | case3 number inside cs v vs ih =>
    obtain ⟨h, ht⟩ := ih bound hnumber
    exact ⟨_, ht.cons rfl⟩
  | case4 number c cs v vs hc ih =>
    obtain ⟨h, ht⟩ := ih bound hnumber
    exact ⟨_, ht.cons (by simp [Text.inLiteral, hc])⟩
  | case5 number inside c cs v vs hc hinside rest hfound ih =>
    obtain ⟨h, ht⟩ := ih number rfl
    obtain ⟨hplace, -⟩ := Statement.afterPlaceholder?_eq_some_iff.mp hfound
    obtain rfl : inside = false := by simpa using hinside
    subst hnumber
    rw [hplace]
    exact ⟨_, ht.hole⟩
  | case6 number inside c cs v vs hc hinside hnone ih =>
    obtain ⟨h, ht⟩ := ih bound hnumber
    exact ⟨_, ht.cons (by simp [Text.inLiteral, hc])⟩

end Holed

theorem Statement.exists_holed (s : Statement) :
    ∃ h : Holed, s.text = h.fill s.dialect 0 ∧ h.values <+: s.operands ∧
      s.interpolate = h.inlined ∧ h.Closes false := by
  obtain ⟨h, htext, hoperands, hwritten, hcloses⟩ :=
    Holed.exists_traces s.dialect 0 false s.text.toList s.operands
  refine ⟨h, String.toList_inj.mp htext.symm, hoperands, ?_, hcloses⟩
  rw [interpolate, ← hwritten, String.ofList_toList]

/-- Texts, documents and bytes are read back from their literals, and the reading stops at what
follows. So no such value ends its own literal: interpolation writes literals in the place of the
first placeholders, and outside of literals there stands what did so before, and for each value a
word, a number, the mark of bytes or nothing. -/
theorem literals_are_read_back :
    (∀ (s : String) (rest : List Char), rest.head? ≠ some '\'' →
      Literal.readText ((Value.text s).inline.toList ++ rest) = some (s, rest)) ∧
    (∀ (j : Json) (rest : List Char), rest.head? ≠ some '\'' →
      Literal.readText ((Value.json j).inline.toList ++ rest) = some (j.text, rest)) ∧
    (∀ (b : Bytes) (rest : List Char), rest.head? ≠ some '\'' →
      Literal.readBytes ((Value.bytes b).inline.toList ++ rest) = some (b, rest)) ∧
    ∀ s : Statement, ∃ h : Holed, s.text = h.fill s.dialect 0 ∧ h.values <+: s.operands ∧
      s.interpolate = h.inlined ∧ Text.outside false s.interpolate.toList = h.bare := by
  have hchars : ∀ v : Value, v.inline.toList = v.inlineChars := fun _ => String.toList_ofList
  refine ⟨fun s rest hr => ?_, fun j rest hr => ?_, fun b rest hr => ?_, fun s => ?_⟩
  · have hread := Literal.readText_literal hr s.toList
    rw [String.ofList_toList] at hread
    rw [hchars]
    exact hread
  · rw [hchars]
    exact Literal.readText_literal hr j.chars
  · rw [hchars, Literal.readBytes_inlineChars hr]
  · obtain ⟨h, htext, hoperands, hinlined, hcloses⟩ := s.exists_holed
    exact ⟨h, htext, hoperands, hinlined, by rw [hinlined, h.outside_inlined hcloses]⟩

/-- Apostrophes at both ends and next to each other, in front of a text that would be a condition. -/
theorem literals_are_read_back_quoted :
    let rest := " OR 1=1".toList
    rest.head? ≠ some '\'' ∧
      (Value.text "'it''s'").inline = "'''it''''s'''" ∧
      Literal.readText ("'''it''''s'''".toList ++ rest) = some ("'it''s'", rest) ∧
      Literal.readText ((Value.json (.string "a'b")).inline.toList ++ rest) = some ("\"a'b\"", rest) ∧
      Literal.readBytes ("X'DEAD'".toList ++ rest) = some ([0xDE, 0xAD], rest) := by
  intro rest
  have hr : rest.head? ≠ some '\'' := by decide
  obtain ⟨htext, hjson, hbytes, -⟩ := literals_are_read_back
  exact ⟨hr, rfl, htext "'it''s'" rest hr, hjson (.string "a'b") rest hr, hbytes [0xDE, 0xAD] rest hr⟩

end QueryKit
