import Mathlib.Data.List.DropRight
import QueryKit.Proofs.Check
import QueryKit.Proofs.Fragment
import QueryKit.Proofs.Reading.Tree

/-! Blank texts. A text put together from others is blank only if each of them is, so one token that
is never blank is enough for a fragment. Every leaf of a condition has such a token, except for a
template without marks whose text is blank: that text is all it writes. -/

namespace QueryKit

namespace Text

theorem allBlank_iff {s : String} : allBlank s ↔ ∀ c ∈ s.toList, isBlank c :=
  List.all_eq_true

theorem allBlank_append (s t : String) : allBlank (s ++ t) = (allBlank s && allBlank t) := by
  rw [allBlank, String.toList_append, List.all_append, allBlank, allBlank]

theorem trim_eq_empty_iff {s : String} : trim s = "" ↔ allBlank s := by
  have hstart : (∀ c ∈ trimStart s.toList, isBlank c) ↔ ∀ c ∈ s.toList, isBlank c := by
    rw [← List.dropWhile_eq_nil_iff, trimStart, List.dropWhile_idempotent,
      List.dropWhile_eq_nil_iff]
  rw [trim, String.ofList_eq_empty_iff, allBlank_iff, ← hstart]
  exact List.rdropWhile_eq_nil_iff

/-- A trimmed text is blank only if it is empty. -/
theorem allBlank_trim_iff {s : String} : allBlank (trim s) ↔ trim s = "" := by
  rw [trim, allBlank_iff, String.toList_ofList, String.ofList_eq_empty_iff,
    ← List.rdropWhile_eq_nil_iff]
  exact iff_of_eq (congrArg (· = []) (List.rdropWhile_idempotent _ _))

end Text

/-- No placeholder and no constant predicate is blank. -/
structure Dialect.Inked (d : Dialect) : Prop where
  placeholder : ∀ number > 0, Text.allBlank (d.placeholder number) = false
  never : Text.allBlank d.never = false
  always : Text.allBlank d.always = false

theorem Dialect.inked_of_mem_builtins {d : Dialect} (hd : d ∈ builtins) : d.Inked := by
  have hmark : Text.allBlank "?" = false := by decide
  simp only [builtins, List.mem_cons, List.not_mem_nil, or_false] at hd
  rcases hd with rfl | rfl | rfl | rfl | rfl
  · exact ⟨fun _ _ => hmark, by decide, by decide⟩
  · exact ⟨fun _ _ => hmark, by decide, by decide⟩
  · refine ⟨fun number _ => ?_, by decide, by decide⟩
    show Text.allBlank ("$" ++ toString number) = false
    rw [Text.allBlank_append]
    rfl
  · exact ⟨fun _ _ => hmark, by decide, by decide⟩
  · refine ⟨fun number _ => ?_, by decide, by decide⟩
    show Text.allBlank ("@p" ++ toString number) = false
    rw [Text.allBlank_append]
    rfl

namespace Fragment

variable {d : Dialect} {f : Fragment}

/-- Some token of the fragment is not blank, wherever it stands. -/
def Inked (d : Dialect) (f : Fragment) : Prop :=
  ∃ t ∈ f, ∀ bound, Text.allBlank (t.render d bound) = false

theorem Inked.allBlank_render (hf : f.Inked d) (bound : Nat) :
    Text.allBlank (f.render d bound) = false := by
  obtain ⟨t, ht, hink⟩ := hf
  obtain ⟨front, back, rfl⟩ := List.append_of_mem ht
  rw [render_append, render, Text.allBlank_append, Text.allBlank_append, hink, Bool.false_and,
    Bool.and_false]

theorem inked_of_text {s : String} (hmem : .text s ∈ f) (hs : Text.allBlank s = false) :
    f.Inked d :=
  ⟨_, hmem, fun _ => hs⟩

theorem inked_of_operand (hd : d.Inked) {v : Value} (hmem : .operand v ∈ f) : f.Inked d :=
  ⟨_, hmem, fun bound => hd.placeholder (bound + 1) (Nat.succ_pos bound)⟩

end Fragment

/-! ### Leaves -/

theorem Comparison.allBlank_symbol (op : Comparison) : Text.allBlank op.symbol = false := by
  cases op <;> decide

namespace Condition

open Fragment (inked_of_text inked_of_operand)

variable {d : Dialect} {text : String} {values : List Value}

/-- A template without marks is written as it stands. -/
theorem fragment_template_nil (h : text.toList.count '?' = 0) :
    (template text []).fragment = [.text text] := by
  have hlength := Text.length_splitAt '?' text.toList
  have hpieces := Text.intercalate_splitAt '?' text.toList
  rw [h] at hlength
  obtain ⟨piece, hpiece⟩ := List.length_eq_one_iff.mp hlength
  rw [hpiece] at hpieces
  have htext : piece = text.toList := by simpa using hpieces
  show Fragment.ofTemplate (Text.splitAt '?' text.toList) [] = _
  rw [hpiece, htext, Fragment.ofTemplate, String.ofList_toList]

theorem operand_mem_template {v : Value} (h : text.toList.count '?' = (v :: values).length) :
    .operand v ∈ (template text (v :: values)).fragment := by
  have hlength := Text.length_splitAt '?' text.toList
  show _ ∈ Fragment.ofTemplate (Text.splitAt '?' text.toList) (v :: values)
  match hpieces : Text.splitAt '?' text.toList with
  | [] | [_] =>
    rw [hpieces, h] at hlength
    simp at hlength
  | piece :: next :: pieces => simp [Fragment.ofTemplate]

/-- A blank text has no marks, so there are no values for it. -/
theorem values_eq_nil_of_allBlank (h : text.toList.count '?' = values.length)
    (hblank : Text.allBlank text) : values = [] := by
  have hnone : '?' ∉ text.toList := by
    intro hmem
    have := Text.allBlank_iff.mp hblank '?' hmem
    contradiction
  rw [List.count_eq_zero.mpr hnone] at h
  exact List.length_eq_zero_iff.mp h.symm

/-- A leaf that writes something, and that is no template with a blank text, has a token that is not
blank. -/
theorem inked_of_isLeaf (hd : d.Inked) {x : Condition} (hleaf : x.isLeaf) (hcheck : x.check = .ok ())
    (hvoid : x.fragment.isVoid = false)
    (htemplate : ∀ text values, x = template text values → Text.allBlank text = false) :
    x.fragment.Inked d := by
  cases x with
  | group | negation => contradiction
  | compare column op value =>
    exact inked_of_text (s := op.symbol) (by simp [fragment, piece, Piece.close]) op.allBlank_symbol
  | compareColumns left op right =>
    exact inked_of_text (s := op.symbol) (by simp [fragment, piece, Piece.close]) op.allBlank_symbol
  | missing column negated =>
    refine inked_of_text (List.mem_append_right _ List.mem_cons_self) ?_
    cases negated <;> decide
  | between column low high negated =>
    exact inked_of_text (s := " AND ") (by simp [fragment, piece, Piece.close]) (by decide)
  | member column values negated =>
    cases values with
    | nil =>
      cases negated
      · exact ⟨_, List.mem_cons_self, fun _ => hd.never⟩
      · exact ⟨_, List.mem_cons_self, fun _ => hd.always⟩
    | cons v vs =>
      exact inked_of_text (s := ")") (by simp [fragment, piece, Piece.close]) (by decide)
  | verbatim text =>
    have hne : Text.trim text ≠ "" := by
      simpa [fragment, piece, Piece.close, Fragment.isVoid, Token.isVoid] using hvoid
    refine inked_of_text (s := Text.trim text) List.mem_cons_self ?_
    rw [← Bool.not_eq_true, Text.allBlank_trim_iff]
    exact hne
  | template text values =>
    have hcount := checkTemplate_ok_iff.mp hcheck
    cases values with
    | nil =>
      rw [fragment_template_nil hcount]
      exact inked_of_text List.mem_cons_self (htemplate text [] rfl)
    | cons v vs => exact inked_of_operand hd (operand_mem_template hcount)

end Condition

end QueryKit
