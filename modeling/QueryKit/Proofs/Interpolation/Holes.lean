import QueryKit.Proofs.Operand.Holed
import QueryKit.Statement
import Mathlib.Algebra.Ring.Parity

/-! Interpolation of texts with holes. The scanner passes over a text in front of a hole if the text
leaves no literal open and does not have, outside of its literals, the placeholder that is due.
Every operand is written into its own hole, and all else is left as it is, exactly if the scanner
passes over every text in front of a hole and no digit runs on behind a placeholder. -/

namespace QueryKit

/-! ### Literals in texts -/

namespace Text

/-- The text read so far leads into a literal, given whether it started in one. -/
def inLiteral (inside : Bool) : List Char → Bool
  | [] => inside
  | c :: cs => inLiteral (if c = '\'' then !inside else inside) cs

theorem inLiteral_append (inside : Bool) (cs ds : List Char) :
    inLiteral inside (cs ++ ds) = inLiteral (inLiteral inside cs) ds := by
  induction cs generalizing inside with
  | nil => rfl
  | cons c cs ih => exact ih _

theorem inLiteral_eq (inside : Bool) (cs : List Char) :
    inLiteral inside cs = (inside ^^ !decide (Even (cs.count '\''))) := by
  induction cs generalizing inside with
  | nil => simp [inLiteral]
  | cons c cs ih =>
    rw [inLiteral, ih]
    by_cases hc : c = '\''
    · cases inside <;> simp [hc, Nat.even_add_one, -Nat.not_even_iff_odd]
    · simp [hc]

theorem inLiteral_eq_false_iff {cs : List Char} :
    inLiteral false cs = false ↔ Even (cs.count '\'') := by
  simp [inLiteral_eq]

theorem inLiteral_of_notMem {inside : Bool} {cs : List Char} (h : '\'' ∉ cs) :
    inLiteral inside cs = inside := by
  simp [inLiteral_eq, List.count_eq_zero.mpr h]

/-- Fixed texts consist of such characters, and literals begin with one. -/
def isOrdinary (c : Char) : Bool :=
  c.isAlphanum || [' ', '(', ')', ',', '.', '*', '=', '<', '>', '-', '\''].contains c

theorem isOrdinary_of_isDigit {c : Char} (h : c.isDigit) : isOrdinary c := by
  simp [isOrdinary, Char.isAlphanum, h]

/-- The characters outside of literals, given whether the text starts in one. -/
def outside (inside : Bool) : List Char → List Char
  | [] => []
  | c :: cs =>
    if c = '\'' then outside (!inside) cs
    else if inside then outside inside cs
    else c :: outside inside cs

theorem outside_append (inside : Bool) (cs ds : List Char) :
    outside inside (cs ++ ds) = outside inside cs ++ outside (inLiteral inside cs) ds := by
  induction cs generalizing inside with
  | nil => rfl
  | cons c cs ih =>
    by_cases hc : c = '\''
    · simp [outside, inLiteral, hc, ih]
    · cases inside <;> simp [outside, inLiteral, hc, ih]

end Text

open Text (inLiteral isOrdinary isOrdinary_of_isDigit)

/-! ### Literals of values -/

def Text.StartsOrdinary (cs : List Char) : Prop :=
  ∃ c more, cs = c :: more ∧ isOrdinary c

theorem startsOrdinary_natDigits (n : Nat) : Text.StartsOrdinary (natDigits n) := by
  cases h : natDigits n with
  | nil => exact absurd h Nat.toDigits_ne_nil
  | cons c more =>
    refine ⟨c, more, rfl, Text.isOrdinary_of_isDigit ?_⟩
    exact Nat.isDigit_of_mem_toDigits (b := 10) (n := n) (by decide) (by decide)
      (by rw [← natDigits, h]; exact List.mem_cons_self)

theorem Text.StartsOrdinary.append {cs : List Char} (h : Text.StartsOrdinary cs) (ds : List Char) :
    Text.StartsOrdinary (cs ++ ds) := by
  obtain ⟨c, more, rfl, hc⟩ := h
  exact ⟨c, more ++ ds, rfl, hc⟩

theorem toList_toString_int (n : Int) :
    (toString n).toList = natDigits n.natAbs ∨ (toString n).toList = '-' :: natDigits n.natAbs := by
  cases n with
  | ofNat m =>
    left
    show (Nat.repr m).toList = natDigits m
    rw [Nat.repr_eq_ofList_toDigits, String.toList_ofList, natDigits]
  | negSucc m =>
    right
    show ("-" ++ Nat.repr (m + 1)).toList = '-' :: natDigits (m + 1)
    rw [String.toList_append, Nat.repr_eq_ofList_toDigits, String.toList_ofList,
      String.toList_ofList]
    rfl

theorem startsOrdinary_int (n : Int) : Text.StartsOrdinary (toString n).toList := by
  rcases toList_toString_int n with hn | hn
  · rw [hn]
    exact startsOrdinary_natDigits n.natAbs
  · exact ⟨'-', _, hn, by decide⟩

theorem startsOrdinary_positional (x : Decimal) : Text.StartsOrdinary x.positional := by
  have hdigits := startsOrdinary_natDigits x.digits
  unfold Decimal.positional
  split
  · exact hdigits.append _
  · split
    · obtain ⟨c, more, hcs, hc⟩ := hdigits
      rw [hcs]
      exact ⟨c, _, rfl, hc⟩
    · exact ⟨'0', _, rfl, by decide⟩

/-- A float is written as a word or a decimal, with or without a sign. -/
theorem Double.toText_cases {P : List Char → Prop} (hnan : P "NaN".toList)
    (hinf : P "inf".toList) (hzero : P "0".toList) (hpositional : ∀ x : Decimal, P x.positional)
    (hsign : ∀ cs, P cs → P ('-' :: cs)) (x : Double) : P x.toText.toList := by
  have hsigned : ∀ s : String, P s.toList →
      P ((if x.negative then "-" else "") ++ s).toList := by
    intro s hs
    rw [String.toList_append]
    split
    · exact hsign _ hs
    · exact hs
  unfold Double.toText
  cases x.magnitude with
  | notANumber =>
    show P "NaN".toList
    exact hnan
  | infinite => exact hsigned "inf" hinf
  | finite m q =>
    cases m with
    | zero => exact hsigned "0" hzero
    | succ m =>
      refine hsigned _ ?_
      rw [String.toList_ofList]
      exact hpositional _

theorem startsOrdinary_float (x : Double) : Text.StartsOrdinary x.toText.toList :=
  Double.toText_cases ⟨'N', ['a', 'N'], rfl, by decide⟩ ⟨'i', ['n', 'f'], rfl, by decide⟩
    ⟨'0', [], rfl, by decide⟩ startsOrdinary_positional
    (fun cs _ => ⟨'-', cs, rfl, by decide⟩) x

/-- A literal begins with a letter, a digit, a sign or an apostrophe. -/
theorem Value.startsOrdinary (v : Value) : Text.StartsOrdinary v.inlineChars := by
  have hliteral : ∀ cs, Text.StartsOrdinary (literal cs) := fun cs => ⟨'\'', _, rfl, by decide⟩
  cases v with
  | null => exact ⟨'N', _, rfl, by decide⟩
  | bool b => cases b <;> exact ⟨_, _, rfl, by decide⟩
  | int n => exact startsOrdinary_int n.toInt
  | float x => exact startsOrdinary_float x
  | bytes b => exact ⟨'X', _, rfl, by decide⟩
  | _ => exact hliteral _

theorem Value.inlineChars_append_ne {mark : Char} (hm : isOrdinary mark = false) (v : Value)
    (more more' : List Char) : v.inlineChars ++ more ≠ mark :: more' := by
  intro heq
  obtain ⟨c, cs, hv, hc⟩ := v.startsOrdinary
  rw [hv, List.cons_append] at heq
  rw [(List.cons.inj heq).1, hm] at hc
  contradiction

namespace Dialect

/-- Every placeholder begins with the mark, which stands nowhere else in it, nor in fixed texts. -/
structure Marked (d : Dialect) (mark : Char) : Prop where
  unusual : isOrdinary mark = false
  placeholder : ∀ n, ∃ digits, (d.placeholder n).toList = mark :: digits ∧ mark ∉ digits

theorem isOrdinary_of_mem_toString {n : Nat} {c : Char} (h : c ∈ (toString n).toList) :
    isOrdinary c := by
  rw [Nat.toString_eq_ofList_toDigits, String.toList_ofList] at h
  exact isOrdinary_of_isDigit (Nat.isDigit_of_mem_toDigits (by decide) (by decide) h)

theorem notMem_of_ordinary {mark : Char} (hm : isOrdinary mark = false) {cs : List Char}
    (hcs : ∀ c ∈ cs, isOrdinary c) : mark ∉ cs := by
  intro h
  rw [hcs mark h] at hm
  contradiction

theorem marked_of_question {d : Dialect} (h : ∀ n, d.placeholder n = "?") : d.Marked '?' := by
  refine ⟨by decide, fun n => ⟨[], ?_, by simp⟩⟩
  rw [h]
  rfl

theorem marked_postgres : postgres.Marked '$' := by
  refine ⟨by decide, fun n => ⟨(toString n).toList, ?_, ?_⟩⟩
  · show ("$" ++ toString n).toList = _
    rw [String.toList_append]
    rfl
  · exact notMem_of_ordinary (by decide) fun _ => isOrdinary_of_mem_toString

theorem marked_sqlserver : sqlserver.Marked '@' := by
  refine ⟨by decide, fun n => ⟨'p' :: (toString n).toList, ?_, ?_⟩⟩
  · show ("@p" ++ toString n).toList = _
    rw [String.toList_append]
    rfl
  · refine notMem_of_ordinary (by decide) (List.forall_mem_cons.mpr ⟨by decide, ?_⟩)
    exact fun _ => isOrdinary_of_mem_toString

theorem marked_of_mem_builtins {d : Dialect} (hd : d ∈ builtins) : ∃ mark, d.Marked mark := by
  simp only [builtins, List.mem_cons, List.not_mem_nil, or_false] at hd
  rcases hd with rfl | rfl | rfl | rfl | rfl
  · exact ⟨'?', marked_of_question fun _ => rfl⟩
  · exact ⟨'?', marked_of_question fun _ => rfl⟩
  · exact ⟨'$', marked_postgres⟩
  · exact ⟨'?', marked_of_question fun _ => rfl⟩
  · exact ⟨'@', marked_sqlserver⟩

variable (d : Dialect) (number : Nat)

/-- A digit at the front of the text would belong to the placeholder in front of it. -/
def RunsOn (cs : List Char) : Prop :=
  1 < (d.placeholder number).utf8ByteSize ∧ ∃ c ∈ cs.head?, c.isDigit

def Leads (cs : List Char) : Prop :=
  ∃ back, cs = (d.placeholder number).toList ++ back ∧ ¬d.RunsOn number back

/-- Somewhere outside of literals the text goes on with the placeholder. -/
def Misleads (inside : Bool) (cs : List Char) : Prop :=
  ∃ front back, cs = front ++ back ∧ inLiteral inside front = false ∧ d.Leads number back

/-- The text leaves no literal open, and it has the placeholder nowhere outside of its literals. -/
structure Passes (cs : List Char) : Prop where
  paired : Even (cs.count '\'')
  unmarked : ∀ front back, cs = front ++ (d.placeholder number).toList ++ back →
    Even (front.count '\'') → d.RunsOn number back

variable {d number}

theorem passes_iff {cs : List Char} :
    d.Passes number cs ↔ inLiteral false cs = false ∧ ¬d.Misleads number false cs := by
  constructor
  · intro h
    refine ⟨Text.inLiteral_eq_false_iff.mpr h.paired, ?_⟩
    rintro ⟨front, _, hcs, hfront, back, rfl, hback⟩
    rw [← List.append_assoc] at hcs
    exact hback (h.unmarked front back hcs (Text.inLiteral_eq_false_iff.mp hfront))
  · rintro ⟨hpaired, hmisleads⟩
    refine ⟨Text.inLiteral_eq_false_iff.mp hpaired, fun front back hcs hfront => ?_⟩
    by_contra hback
    refine hmisleads ⟨front, _, ?_, Text.inLiteral_eq_false_iff.mpr hfront, back, rfl, hback⟩
    rw [hcs, List.append_assoc]

theorem misleads_cons_iff {inside : Bool} {c : Char} {cs : List Char} :
    d.Misleads number inside (c :: cs) ↔
      (inside = false ∧ d.Leads number (c :: cs)) ∨
        d.Misleads number (inLiteral inside [c]) cs := by
  constructor
  · rintro ⟨front, back, hcs, hfront, hback⟩
    cases front with
    | nil =>
      rw [List.nil_append] at hcs
      exact .inl ⟨hfront, hcs ▸ hback⟩
    | cons x front =>
      obtain ⟨rfl, rfl⟩ := List.cons.inj hcs
      exact .inr ⟨front, back, rfl, hfront, hback⟩
  · rintro (⟨rfl, hback⟩ | ⟨front, back, rfl, hfront, hback⟩)
    · exact ⟨[], c :: cs, rfl, rfl, hback⟩
    · exact ⟨c :: front, back, rfl, hfront, hback⟩

theorem leads_placeholder_iff {rest : List Char} :
    d.Leads number ((d.placeholder number).toList ++ rest) ↔ ¬d.RunsOn number rest := by
  constructor
  · rintro ⟨back, hback, hend⟩
    rwa [List.append_cancel_left hback]
  · exact fun hend => ⟨rest, rfl, hend⟩

section Marked

variable {mark : Char} (hd : d.Marked mark)
include hd

theorem Marked.ne_apostrophe : mark ≠ '\'' := by
  rintro rfl
  exact absurd hd.unusual (by decide)

theorem Marked.isDigit_eq_false : mark.isDigit = false := by
  cases h : mark.isDigit with
  | false => rfl
  | true =>
    have := hd.unusual
    rw [isOrdinary_of_isDigit h] at this
    contradiction

theorem Marked.head_of_leads {c : Char} {cs : List Char} (h : d.Leads number (c :: cs)) :
    c = mark := by
  obtain ⟨back, hback, -⟩ := h
  obtain ⟨digits, hp, -⟩ := hd.placeholder number
  rw [hp] at hback
  exact (List.cons.inj hback).1

theorem Marked.not_misleads_nil (inside : Bool) : ¬d.Misleads number inside [] := by
  rintro ⟨front, back, hcs, -, rest, rfl, -⟩
  obtain ⟨digits, hp, -⟩ := hd.placeholder number
  simp [hp] at hcs

/-- What follows a text does not matter to a placeholder at its front, if it starts with a character
that no placeholder goes on with. -/
theorem Marked.leads_append_iff {b : Char} (hb : b.isDigit = false)
    (hrest : ∀ digits, (d.placeholder number).toList = mark :: digits → b ∉ digits)
    {cs : List Char} (hcs : cs ≠ []) (more : List Char) :
    d.Leads number (cs ++ b :: more) ↔ d.Leads number cs := by
  obtain ⟨digits, hp, -⟩ := hd.placeholder number
  have hmissing := hrest digits hp
  have hruns : ∀ back, d.RunsOn number (back ++ b :: more) ↔ d.RunsOn number back := by
    intro back
    cases back <;> simp [RunsOn, hb]
  constructor
  · rintro ⟨back, hback, hend⟩
    rcases List.append_eq_append_iff.mp hback with ⟨tail, hfront, htail⟩ | ⟨tail, rfl, htail⟩
    · -- The placeholder would reach into what follows.
      rw [hp] at hfront
      cases cs with
      | nil => contradiction
      | cons c cs =>
        obtain ⟨rfl, hdigits⟩ : mark = c ∧ digits = cs ++ tail := List.cons.inj hfront
        cases tail with
        | nil =>
          rw [List.append_nil] at hdigits
          refine ⟨[], ?_, by simp [RunsOn]⟩
          rw [hp, hdigits, List.append_nil]
        | cons x tail =>
          obtain ⟨rfl, -⟩ := List.cons.inj htail
          exact absurd (hdigits ▸ by simp) hmissing
    · rw [htail, hruns] at hend
      exact ⟨tail, rfl, hend⟩
  · rintro ⟨back, rfl, hend⟩
    exact ⟨back ++ b :: more, List.append_assoc _ _ _, mt (hruns back).mp hend⟩

end Marked

end Dialect

namespace Statement

theorem afterFront?_eq_some_iff {front cs rest : List Char} :
    afterFront? front cs = some rest ↔ cs = front ++ rest := by
  fun_induction afterFront? front cs with
  | case1 => simp [eq_comm]
  | case2 => simp
  | case3 fs c cs ih => simp [ih]
  | case4 f fs c cs hne => simp [Ne.symm hne]

theorem afterPlaceholder?_eq_some_iff {d : Dialect} {number : Nat} {cs rest : List Char} :
    afterPlaceholder? (d.placeholder number).toList cs = some rest ↔
      cs = (d.placeholder number).toList ++ rest ∧ ¬d.RunsOn number rest := by
  have hsize : (String.ofList (d.placeholder number).toList) = d.placeholder number :=
    String.ofList_toList
  have hruns : ∀ back : List Char, d.RunsOn number back ↔
      (1 < (d.placeholder number).utf8ByteSize && (back.head?.map Char.isDigit).getD false) := by
    intro back
    cases back <;> simp [Dialect.RunsOn]
  rw [← afterFront?_eq_some_iff, hruns, afterPlaceholder?, hsize]
  cases afterFront? (d.placeholder number).toList cs with
  | none => simp
  | some back =>
    simp only [Option.some.injEq]
    split
    · simp only [reduceCtorEq, false_iff, not_and, not_not]
      rintro rfl
      assumption
    · simp only [Option.some.injEq, iff_self_and]
      rintro rfl
      assumption

variable {d : Dialect} {number : Nat}

theorem splice_nil_operands (inside : Bool) (cs : List Char) :
    splice d number inside cs [] = cs := by
  cases cs <;> rw [splice]

theorem splice_outside {c : Char} (hc : c ≠ '\'') (cs : List Char) (v : Value) (vs : List Value) :
    splice d number false (c :: cs) (v :: vs) =
      match afterPlaceholder? (d.placeholder number).toList (c :: cs) with
      | some rest => v.inlineChars ++ splice d (number + 1) false rest vs
      | none => c :: splice d number false cs (v :: vs) := by
  rw [splice.eq_def]
  simp only [hc, if_false, Bool.false_eq_true]
  split <;> rename_i hfound <;> rw [hfound]

theorem splice_cons {inside : Bool} {c : Char} {cs : List Char} (v : Value) (vs : List Value)
    (h : c = '\'' ∨ inside ∨ ¬d.Leads number (c :: cs)) :
    splice d number inside (c :: cs) (v :: vs) =
      c :: splice d number (inLiteral inside [c]) cs (v :: vs) := by
  by_cases hc : c = '\''
  · rw [splice.eq_def]
    simp [hc, inLiteral]
  · cases inside with
    | true =>
      rw [splice.eq_def]
      simp [hc, inLiteral]
    | false =>
      have hnone : afterPlaceholder? (d.placeholder number).toList (c :: cs) = none := by
        rw [Option.eq_none_iff_forall_ne_some]
        intro rest hrest
        simp only [hc, Bool.false_eq_true, false_or] at h
        exact h ⟨rest, afterPlaceholder?_eq_some_iff.mp hrest⟩
      rw [splice_outside hc, hnone, inLiteral, inLiteral, if_neg hc]

/-- A placeholder outside of literals gives way to its operand. -/
theorem splice_placeholder {mark : Char} (hd : d.Marked mark) {rest : List Char} (v : Value)
    (vs : List Value) (h : ¬d.RunsOn number rest) :
    splice d number false ((d.placeholder number).toList ++ rest) (v :: vs) =
      v.inlineChars ++ splice d (number + 1) false rest vs := by
  obtain ⟨digits, hp, -⟩ := hd.placeholder number
  have hfound := afterPlaceholder?_eq_some_iff.mpr ⟨rfl, h⟩
  rw [hp, List.cons_append] at hfound ⊢
  rw [splice_outside hd.ne_apostrophe, hp, hfound]

section Marked

variable {mark : Char} (hd : d.Marked mark) {cs more : List Char} {v : Value} {vs : List Value}
include hd

/-- A placeholder in a literal, or with a digit behind it, is no hole: its mark is kept, and that is
not how the literal of the operand begins. -/
theorem splice_placeholder_ne {inside : Bool} (h : inside ∨ d.RunsOn number more)
    (rest : List Char) :
    splice d number inside ((d.placeholder number).toList ++ more) (v :: vs) ≠
      v.inlineChars ++ rest := by
  have hstay : inside ∨ ¬d.Leads number ((d.placeholder number).toList ++ more) := by
    rwa [Dialect.leads_placeholder_iff, not_not]
  obtain ⟨digits, hp, -⟩ := hd.placeholder number
  rw [hp, List.cons_append] at hstay ⊢
  rw [splice_cons v vs (.inr hstay)]
  exact (v.inlineChars_append_ne hd.unusual rest _).symm

/-- No placeholder begins in the text in front of a placeholder and ends in it. -/
theorem leads_append_placeholder_iff (hcs : cs ≠ []) :
    d.Leads number (cs ++ ((d.placeholder number).toList ++ more)) ↔ d.Leads number cs := by
  obtain ⟨digits, hp, hmark⟩ := hd.placeholder number
  rw [hp, List.cons_append]
  refine hd.leads_append_iff hd.isDigit_eq_false (fun digits' hp' => ?_) hcs _
  rw [hp] at hp'
  exact (List.cons.inj hp').2 ▸ hmark

theorem splice_front {inside : Bool} {c : Char}
    (h : ¬(inside = false ∧ d.Leads number (c :: cs))) :
    splice d number inside (c :: cs ++ ((d.placeholder number).toList ++ more)) (v :: vs) =
      c :: splice d number (inLiteral inside [c])
        (cs ++ ((d.placeholder number).toList ++ more)) (v :: vs) := by
  refine splice_cons v vs (.inr ?_)
  cases inside with
  | true => exact .inl rfl
  | false =>
    refine .inr fun hleads => h ⟨rfl, ?_⟩
    exact (leads_append_placeholder_iff hd (List.cons_ne_nil c cs)).mp hleads

/-- A text that does not mislead is passed over up to the placeholder behind it. -/
theorem splice_of_not_misleads {inside : Bool} (h : ¬d.Misleads number inside cs) :
    splice d number inside (cs ++ ((d.placeholder number).toList ++ more)) (v :: vs) =
      cs ++ splice d number (inLiteral inside cs) ((d.placeholder number).toList ++ more)
        (v :: vs) := by
  induction cs generalizing inside with
  | nil => rfl
  | cons c cs ih =>
    obtain ⟨hhere, hlater⟩ := not_or.mp (mt Dialect.misleads_cons_iff.mpr h)
    rw [splice_front hd hhere, ih hlater]
    rfl

/-- In a text that misleads, the operand is written at the wrong place. -/
theorem splice_of_misleads {inside : Bool} (h : d.Misleads number inside cs) :
    ∃ front back rest, cs = front ++ mark :: back ∧
      splice d number inside (cs ++ ((d.placeholder number).toList ++ more)) (v :: vs) =
        front ++ (v.inlineChars ++ rest) := by
  induction cs generalizing inside with
  | nil => exact absurd h (hd.not_misleads_nil inside)
  | cons c cs ih =>
    by_cases hhere : inside = false ∧ d.Leads number (c :: cs)
    · obtain ⟨rfl, hleads⟩ := hhere
      obtain rfl := hd.head_of_leads hleads
      obtain ⟨back, hback, hend⟩ :
          d.Leads number (c :: cs ++ ((d.placeholder number).toList ++ more)) :=
        (leads_append_placeholder_iff hd (List.cons_ne_nil c cs)).mpr hleads
      rw [hback, splice_placeholder hd v vs hend]
      exact ⟨[], cs, _, rfl, rfl⟩
    · have hlater := (Dialect.misleads_cons_iff.mp h).resolve_left hhere
      obtain ⟨front, back, rest, rfl, hsplice⟩ := ih hlater
      refine ⟨c :: front, back, rest, rfl, ?_⟩
      rw [splice_front hd hhere, hsplice]
      rfl

end Marked

end Statement

namespace Holed

/-- The text with the operands in its holes written as literals. -/
def inlined : Holed → String
  | plain text => text
  | hole text v rest => text ++ v.inline ++ rest.inlined

def front : Holed → String
  | plain text => text
  | hole text _ _ => text

/-- Every text in front of a hole passes for its placeholder, and no text behind a hole begins with a
digit of it. -/
def Passes (d : Dialect) (bound : Nat) : Holed → Prop
  | plain _ => True
  | hole text _ rest =>
    d.Passes (bound + 1) text.toList ∧ ¬d.RunsOn (bound + 1) rest.front.toList ∧
      rest.Passes d (bound + 1)

variable {d : Dialect} {mark : Char}

theorem runsOn_fill_iff (hd : d.Marked mark) (number bound : Nat) (h : Holed) :
    d.RunsOn number (h.fill d bound).toList ↔ d.RunsOn number h.front.toList := by
  cases h with
  | plain text => rfl
  | hole text v rest =>
    obtain ⟨digits, hp, -⟩ := hd.placeholder (bound + 1)
    have hmark := hd.isDigit_eq_false
    cases htext : text.toList <;> simp [fill, front, Dialect.RunsOn, htext, hp, hmark]

/-- Interpolation writes every operand into its own hole, and nothing else, exactly if all texts
pass. -/
theorem splice_fill_iff (hd : d.Marked mark) (bound : Nat) (h : Holed) :
    Statement.splice d (bound + 1) false (h.fill d bound).toList h.values = h.inlined.toList ↔
      h.Passes d bound := by
  induction h generalizing bound with
  | plain text => simp [fill, values, inlined, Passes, Statement.splice_nil_operands]
  | hole text v rest ih =>
    have hfill : (fill d bound (hole text v rest)).toList = text.toList ++
        ((d.placeholder (bound + 1)).toList ++ (rest.fill d (bound + 1)).toList) := by
      simp [fill]
    have hinlined : (inlined (hole text v rest)).toList = text.toList ++
        (v.inlineChars ++ rest.inlined.toList) := by
      simp [inlined, Value.inline]
    rw [hfill, hinlined, values, Passes, Dialect.passes_iff, ← runsOn_fill_iff hd _ (bound + 1),
      ← ih]
    by_cases hmisleads : d.Misleads (bound + 1) false text.toList
    · -- The first difference is where the operand was written: what it took the place of had a mark.
      refine iff_of_false (fun heq => ?_) fun hpasses => hpasses.1.2 hmisleads
      obtain ⟨front, back, more, htext, hsplice⟩ := Statement.splice_of_misleads hd hmisleads
      rw [hsplice, htext, List.append_assoc] at heq
      exact v.inlineChars_append_ne hd.unusual _ _ (List.append_cancel_left heq)
    · rw [Statement.splice_of_not_misleads hd hmisleads, List.append_cancel_left_eq]
      -- The scanner is now in front of the hole, and it takes it for one or it does not.
      cases hinside : inLiteral false text.toList with
      | true => exact iff_of_false (Statement.splice_placeholder_ne hd (.inl rfl) _) (by simp)
      | false =>
        by_cases hruns : d.RunsOn (bound + 1) (rest.fill d (bound + 1)).toList
        · exact iff_of_false (Statement.splice_placeholder_ne hd (.inr hruns) _)
            fun hpasses => hpasses.2.1 hruns
        · rw [Statement.splice_placeholder hd v _ hruns, List.append_cancel_left_eq]
          simp [hmisleads, hruns]

theorem interpolate_fill_iff (hd : d.Marked mark) (h : Holed) :
    Statement.interpolate ⟨h.fill d 0, h.values, d⟩ = h.inlined ↔ h.Passes d 0 := by
  rw [← splice_fill_iff hd, Statement.interpolate, ← String.toList_inj, String.toList_ofList]

/-! ### Pieces around holes -/

/-- The texts in front of the holes, between them and behind them. -/
def pieces : Holed → List String
  | plain text => [text]
  | hole text _ rest => text :: rest.pieces

theorem front_mem_pieces (h : Holed) : h.front ∈ h.pieces := by
  cases h <;> exact List.mem_cons_self

end Holed

namespace Dialect

variable {d : Dialect} {mark : Char}

/-- Some placeholder is longer than a mark, so that digits belong to it. -/
def IsNumbered (d : Dialect) : Prop :=
  ∃ number, 1 < (d.placeholder number).utf8ByteSize

theorem Marked.passes_of_outside (hd : d.Marked mark) (number : Nat) {cs : List Char}
    (hpaired : Even (cs.count '\'')) (hmark : mark ∉ Text.outside false cs) :
    d.Passes number cs := by
  refine ⟨hpaired, fun front back hcs hfront => absurd ?_ hmark⟩
  obtain ⟨digits, hp, -⟩ := hd.placeholder number
  rw [hcs, hp, List.append_assoc, Text.outside_append, Text.inLiteral_eq_false_iff.mpr hfront]
  simp [Text.outside, hd.ne_apostrophe]

end Dialect

namespace Holed

variable {d : Dialect} {mark : Char}

theorem passes_of_pieces (hd : d.Marked mark) (bound : Nat) {h : Holed}
    (hpieces : ∀ piece ∈ h.pieces, Even (piece.toList.count '\'') ∧
      mark ∉ Text.outside false piece.toList)
    (hdigits : d.IsNumbered → ∀ piece ∈ h.pieces.tail, ∀ c ∈ piece.toList.head?,
      c.isDigit = false) :
    h.Passes d bound := by
  induction h generalizing bound with
  | plain text => trivial
  | hole text v rest ih =>
    obtain ⟨⟨hpaired, hmark⟩, hrest⟩ := List.forall_mem_cons.mp hpieces
    refine ⟨hd.passes_of_outside _ hpaired hmark, ?_, ih (bound + 1) hrest fun hnumbered => ?_⟩
    · rintro ⟨hlong, c, hc, hdigit⟩
      have := hdigits ⟨_, hlong⟩ rest.front rest.front_mem_pieces c hc
      rw [hdigit] at this
      contradiction
    · exact fun piece hpiece => hdigits hnumbered piece (List.mem_of_mem_tail hpiece)

end Holed

/-- A text whose pieces have their apostrophes in pairs and the mark of placeholders in their
literals only is interpolated hole by hole, if no digit follows a placeholder with a number. -/
theorem templates_are_filled :
    (∀ d ∈ Dialect.builtins, ∃ mark, d.Marked mark) ∧
    ∀ (d : Dialect) (mark : Char) (h : Holed), d.Marked mark →
      (∀ piece ∈ h.pieces, Even (piece.toList.count '\'') ∧
        mark ∉ Text.outside false piece.toList) →
      (d.IsNumbered → ∀ piece ∈ h.pieces.tail, ∀ c ∈ piece.toList.head?, c.isDigit = false) →
      Statement.interpolate ⟨h.fill d 0, h.values, d⟩ = h.inlined := by
  refine ⟨fun d hd => Dialect.marked_of_mem_builtins hd, ?_⟩
  intro d mark h hd hpieces hdigits
  exact (Holed.interpolate_fill_iff hd h).mpr (Holed.passes_of_pieces hd 0 hpieces hdigits)

/-- Eleven operands, one with an apostrophe and a placeholder in it, behind a literal with another. -/
theorem templates_are_filled_eleven :
    let h : Holed := .hole "a='$1' AND b=" (.text "x'$2") ((List.range 10).foldr
      (fun n rest => .hole " OR c=" (.int (.ofNat n)) rest) (.plain ""))
    (∀ piece ∈ h.pieces, Even (piece.toList.count '\'') ∧
      '$' ∉ Text.outside false piece.toList) ∧
    (∀ piece ∈ h.pieces.tail, ∀ c ∈ piece.toList.head?, c.isDigit = false) ∧
    Statement.interpolate ⟨"a='$1' AND b=$1 OR c=$2 OR c=$3 OR c=$4 OR c=$5 OR c=$6 OR c=$7 OR " ++
        "c=$8 OR c=$9 OR c=$10 OR c=$11", h.values, .postgres⟩ =
      "a='$1' AND b='x''$2' OR c=0 OR c=1 OR c=2 OR c=3 OR c=4 OR c=5 OR c=6 OR c=7 OR c=8 OR c=9" := by
  intro h
  have hpieces : ∀ piece ∈ h.pieces, Even (piece.toList.count '\'') ∧
      '$' ∉ Text.outside false piece.toList := by decide
  have hdigits : ∀ piece ∈ h.pieces.tail, ∀ c ∈ piece.toList.head?, c.isDigit = false := by
    have hall : ∀ piece ∈ h.pieces.tail, piece.toList.head?.all fun c => !c.isDigit := by decide
    intro piece hpiece c hc
    have hfirst := hall piece hpiece
    rw [Option.mem_def.mp hc] at hfirst
    simpa using hfirst
  exact ⟨hpieces, hdigits, templates_are_filled.2 .postgres '$' h Dialect.marked_postgres hpieces
    fun _ => hdigits⟩

end QueryKit
