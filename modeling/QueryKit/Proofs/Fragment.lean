import QueryKit.Fragment

/-! The operands and the text of fragments put together. -/

namespace QueryKit

namespace Fragment

theorem operands_append (d : Dialect) (f g : Fragment) :
    operands d (f ++ g) = operands d f ++ operands d g :=
  List.flatMap_append

theorem render_append (d : Dialect) (bound : Nat) (f g : Fragment) :
    render d bound (f ++ g) =
      render d bound f ++ render d (bound + (operands d f).length) g := by
  induction f generalizing bound with
  | nil => simp [render, operands]
  | cons t ts ih =>
    simp only [List.cons_append, render, ih, String.append_assoc, operands, List.flatMap_cons,
      List.length_append, Nat.add_assoc]

theorem render_text_behind (d : Dialect) (bound : Nat) (f : Fragment) (s : String) :
    render d bound (f ++ [.text s]) = render d bound f ++ s := by
  simp [render_append, render, Token.render]

@[simp] theorem operands_nil (d : Dialect) : operands d [] = [] :=
  rfl

@[simp] theorem operands_text_cons (d : Dialect) (s : String) (f : Fragment) :
    operands d (.text s :: f) = operands d f :=
  rfl

theorem operands_text_behind {d : Dialect} {f : Fragment} (hf : f.operands d = []) (s : String) :
    operands d (f ++ [.text s]) = [] := by
  simp [operands_append, hf]

theorem operands_separated (d : Dialect) (separator : String) (fs : List Fragment) :
    operands d (separated separator fs) = fs.flatMap (operands d) := by
  induction fs with
  | nil => rfl
  | cons f fs ih =>
    cases fs with
    | nil => simp [separated]
    | cons g gs =>
      simp only [separated, List.intercalate_cons_cons] at ih ⊢
      rw [operands_append, operands_append, ih, operands_text_cons, operands_nil, List.append_nil]
      rfl

section Void

variable {d : Dialect} {f : Fragment} (hf : f.isVoid)
include hf

theorem render_of_isVoid {bound : Nat} : f.render d bound = "" := by
  induction f generalizing bound with
  | nil => rfl
  | cons t ts ih =>
    obtain ⟨ht, hts⟩ : t.isVoid ∧ isVoid ts := by simpa [isVoid] using hf
    have htext : t.render d bound = "" := by
      cases t <;> simp_all [Token.isVoid, Token.render]
    rw [render, htext, ih hts, String.empty_append]

theorem operands_of_isVoid : f.operands d = [] := by
  simp only [isVoid, List.all_eq_true] at hf
  simp only [operands, List.flatMap_eq_nil_iff]
  intro t ht
  have hvoid := hf t ht
  cases t <;> simp_all [Token.isVoid, Token.operands]

end Void

/-- The texts of several fragments, one behind the other. -/
def renderEach (d : Dialect) (bound : Nat) : List Fragment → List String
  | [] => []
  | f :: fs => f.render d bound :: renderEach d (bound + (f.operands d).length) fs

theorem renderEach_append (d : Dialect) (bound : Nat) (fs gs : List Fragment) :
    renderEach d bound (fs ++ gs) =
      renderEach d bound fs ++ renderEach d (bound + (fs.flatMap (operands d)).length) gs := by
  induction fs generalizing bound with
  | nil => rfl
  | cons f fs ih =>
    simp only [List.cons_append, renderEach, ih, List.flatMap_cons, List.length_append,
      Nat.add_assoc]

theorem renderEach_of_operands_nil {d : Dialect} (bound : Nat) {fs : List Fragment}
    (h : ∀ f ∈ fs, f.operands d = []) : renderEach d bound fs = fs.map (render d bound) := by
  induction fs with
  | nil => rfl
  | cons f fs ih =>
    obtain ⟨hf, hfs⟩ := List.forall_mem_cons.mp h
    rw [renderEach, hf, List.length_nil, Nat.add_zero, ih hfs, List.map_cons]

theorem render_separated (d : Dialect) (bound : Nat) (separator : String) (fs : List Fragment) :
    render d bound (separated separator fs) =
      String.intercalate separator (renderEach d bound fs) := by
  induction fs generalizing bound with
  | nil => rfl
  | cons f fs ih =>
    cases fs with
    | nil => simp [separated, renderEach]
    | cons g gs =>
      have hrest := ih (bound + (f.operands d).length)
      have hnone : operands d [.text separator] = [] := rfl
      simp only [separated, List.intercalate_cons_cons, renderEach,
        String.intercalate_cons_cons] at hrest ⊢
      rw [render_append, render_text_behind, operands_append, hnone, List.append_nil, hrest]

end Fragment

end QueryKit
