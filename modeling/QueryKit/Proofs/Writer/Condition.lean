import QueryKit.Proofs.Operand.Holed
import QueryKit.Proofs.Reading.Tree
import QueryKit.Writer.Condition

/-! Conditions as writers and as tokens. Leaves are written as their tokens in every dialect. Groups
and contraries leave out what has no text when they are written, and what has no tokens that write
something when they are made of tokens; in a dialect whose placeholders and constant predicates are
not empty, this comes to the same. -/

namespace QueryKit

/-! ### Writers and fragments -/

namespace Sheet

variable (s : Sheet) (f g : Fragment)

theorem write_dialect : (s.write f).dialect = s.dialect := by
  rw [write]

theorem write_nil : s.write [] = s := by
  simp [write, Fragment.render]

theorem write_write : (s.write f).write g = s.write (f ++ g) := by
  simp only [write, Fragment.render_append, Fragment.operands_append, List.length_append,
    String.append_assoc, List.append_assoc]

/-- A token that binds nothing is a text. -/
theorem append_render {t : Token} (ht : t.operands s.dialect = []) :
    s.append (t.render s.dialect s.values.length) = s.write [t] := by
  simp [append, write, Fragment.render, Fragment.operands, ht]

theorem append_eq (text : String) : s.append text = s.write [.text text] :=
  s.append_render (t := .text text) rfl

theorem append_append (text more : String) :
    (s.append text).append more = s.append (text ++ more) := by
  simp [append, String.append_assoc]

theorem name_eq (identifier : String) : s.name identifier = s.write [.name identifier] :=
  s.append_render (t := .name identifier) rfl

theorem operand_eq (v : Value) : s.operand v = s.write [.operand v] := by
  simp [operand, append, bind, lastPlaceholder, write, Fragment.render, Fragment.operands,
    Token.render, Token.operands]

/-- What is written as a fragment has the fragment's text, and binds its operands. -/
theorem aside_eq {write : Sheet → Sheet} {f : Fragment}
    (h : ∀ r : Sheet, r.dialect = s.dialect → write r = r.write f) :
    s.aside write = (f.render s.dialect s.values.length,
      { s with values := s.values ++ f.operands s.dialect }) := by
  rw [aside, h { s with text := "" } rfl]
  simp [Sheet.write]

/-- A text may be cut anywhere. -/
theorem write_text_append (text more : String) :
    s.write (.text (text ++ more) :: f) = (s.append text).write (.text more :: f) := by
  simp [append, write, Fragment.render, Token.render, Token.operands, String.append_assoc]

variable {s}

theorem list_eq {α : Type} {write : Sheet → α → Sheet} {tokens : α → Fragment} (xs : List α)
    (h : ∀ x ∈ xs, ∀ r : Sheet, r.dialect = s.dialect → write r x = r.write (tokens x)) :
    s.list write xs = s.write (Fragment.separated ", " (xs.map tokens)) := by
  fun_induction list write s xs with
  | case1 s => exact s.write_nil.symm
  | case2 s x =>
    rw [h x List.mem_cons_self s rfl]
    simp [Fragment.separated]
  | case3 s x y xs ih =>
    have hx := h x List.mem_cons_self s rfl
    rw [ih fun z hz r hr => h z (List.mem_cons_of_mem x hz) r (hr.trans (by rw [hx]; rfl)), hx,
      append_eq, write_write, write_write]
    simp [Fragment.separated]

variable (s)

theorem path_eq (parts : List String) : s.path parts = s.write (Column.pathFragment parts) := by
  fun_induction path s parts with
  | case1 s => exact s.write_nil.symm
  | case2 s => exact s.append_eq "*"
  | case3 s last hlast => rw [name_eq, Column.pathFragment, if_neg hlast]
  | case4 s part next rest ih =>
    rw [ih, name_eq, append_eq, write_write, write_write]
    rfl

theorem column_eq (c : Column) : s.column c = s.write c.fragment := by
  cases c with
  | path parts => exact s.path_eq parts
  | verbatim expression => exact s.append_eq expression

theorem write_ofTemplate_cons (c : Char) (piece : List Char) (pieces : List (List Char))
    (vs : List Value) :
    s.write (Fragment.ofTemplate ((c :: piece) :: pieces) vs) =
      (s.append (.singleton c)).write (Fragment.ofTemplate (piece :: pieces) vs) := by
  have htext : String.ofList (c :: piece) = .singleton c ++ .ofList piece := by
    simp
  match pieces, vs with
  | [], vs => simp only [Fragment.ofTemplate, htext, write_text_append]
  | _ :: _, [] => simp only [Fragment.ofTemplate, htext, write_text_append]
  | _ :: _, _ :: _ => simp only [Fragment.ofTemplate, htext, write_text_append]

/-- At a mark there is the next value, or the mark itself if there is none. -/
theorem write_ofTemplate_mark (piece : List Char) (pieces : List (List Char)) (vs : List Value) :
    s.write (Fragment.ofTemplate ([] :: piece :: pieces) vs) =
      (s.write [(vs.head?.map .operand).getD (.text "?")]).write
        (Fragment.ofTemplate (piece :: pieces) vs.tail) := by
  cases vs <;> simp [Fragment.ofTemplate, write, Fragment.render, Token.render, Token.operands,
    Fragment.operands, String.append_assoc]

theorem template_eq (cs : List Char) (vs : List Value) :
    s.template cs vs = s.write (Fragment.ofTemplate (Text.splitAt '?' cs) vs) := by
  fun_induction template s cs vs with
  | case1 s vs => simp [Text.splitAt, Fragment.ofTemplate, ← append_eq, append]
  | case2 s cs v vs ih =>
    obtain ⟨piece, pieces, hpieces⟩ := List.exists_cons_of_ne_nil (Text.splitAt_ne_nil '?' cs)
    simp only [Text.splitAt, beq_self_eq_true, if_true, hpieces] at ih ⊢
    rw [ih, operand_eq, write_ofTemplate_mark]
    rfl
  | case3 s c cs vs hmark ih =>
    obtain ⟨piece, pieces, hpieces⟩ := List.exists_cons_of_ne_nil (Text.splitAt_ne_nil '?' cs)
    rw [hpieces] at ih
    by_cases hc : c = '?'
    · subst hc
      cases vs with
      | cons v vs => exact (hmark v vs rfl rfl).elim
      | nil =>
        simp only [Text.splitAt, beq_self_eq_true, if_true, hpieces]
        rw [ih, write_ofTemplate_mark, append_eq]
        rfl
    · simp only [Text.splitAt, beq_iff_eq, hc, if_false, hpieces]
      rw [ih, write_ofTemplate_cons]

/-- A leaf is written as its tokens in every dialect. -/
theorem compile_of_isLeaf {c : Condition} (hleaf : c.isLeaf) : s.compile c = s.write c.fragment := by
  cases c with
  | group | negation => contradiction
  | compare column op value =>
    rw [compile, operand_eq, append_eq, column_eq, write_write, write_write]
    simp [Condition.fragment, Condition.piece, Piece.close]
  | compareColumns left op right =>
    rw [compile, column_eq, append_eq, column_eq, write_write, write_write]
    simp [Condition.fragment, Condition.piece, Piece.close]
  | missing column negated =>
    rw [compile, append_eq, column_eq, write_write]
    rfl
  | member column values negated =>
    cases values with
    | nil =>
      cases negated with
      | true => exact s.append_render (t := .always) rfl
      | false => exact s.append_render (t := .never) rfl
    | cons v vs =>
      have hvalues (r : Sheet) : r.list operand (v :: vs) = r.write (Fragment.ofValues (v :: vs)) :=
        list_eq (v :: vs) fun x _ r _ => r.operand_eq x
      rw [compile, append_eq, append_eq, column_eq, hvalues, write_write, write_write, write_write]
      simp [Condition.fragment, Condition.piece, Piece.close]
  | between column low high negated =>
    rw [compile, operand_eq, append_eq, operand_eq, append_eq, column_eq, write_write, write_write,
      write_write, write_write]
    simp [Condition.fragment, Condition.piece, Piece.close]
  | verbatim text =>
    rw [compile, append_eq]
    rfl
  | template text values =>
    rw [compile, template_eq]
    rfl

end Sheet

/-! ### Fragments without a text -/

/-- No placeholder is empty. -/
def Dialect.HasPlaceholders (d : Dialect) : Prop :=
  ∀ number > 0, d.placeholder number ≠ ""

/-- Neither placeholders nor constant predicates are empty. -/
structure Dialect.Visible (d : Dialect) : Prop where
  placeholders : d.HasPlaceholders
  never_ne : d.never ≠ ""
  always_ne : d.always ≠ ""

theorem Dialect.visible_of_mem_builtins {d : Dialect} (hd : d ∈ builtins) : d.Visible := by
  simp only [builtins, List.mem_cons, List.not_mem_nil, or_false] at hd
  rcases hd with rfl | rfl | rfl | rfl | rfl
  · exact ⟨fun _ _ => by simp [generic], by decide, by decide⟩
  · exact ⟨fun _ _ => by simp [mysql], by decide, by decide⟩
  · refine ⟨fun number _ => ?_, by decide, by decide⟩
    show "$" ++ toString number ≠ ""
    simp [String.append_eq_empty_iff]
  · exact ⟨fun _ _ => by simp [sqlite], by decide, by decide⟩
  · refine ⟨fun number _ => ?_, by decide, by decide⟩
    show "@p" ++ toString number ≠ ""
    simp [String.append_eq_empty_iff]

/-- The token writes nothing, or it has a text wherever it stands. -/
def Token.Clear (d : Dialect) (t : Token) : Prop :=
  t.isVoid ∨ ∀ bound, t.render d bound ≠ ""

theorem Token.clear_text {d : Dialect} (s : String) : (text s).Clear d := by
  by_cases hs : s = ""
  · exact .inl (by simp [isVoid, hs])
  · exact .inr fun _ => hs

namespace Fragment

variable {d : Dialect} {f : Fragment} {fs : List Fragment}

/-- The fragment writes nothing, or it has a text wherever it stands. -/
def Clear (d : Dialect) (f : Fragment) : Prop :=
  f.isVoid ∨ ∀ bound, f.render d bound ≠ ""

theorem Clear.render_eq_empty_iff (hf : f.Clear d) (bound : Nat) :
    f.render d bound = "" ↔ f.isVoid :=
  ⟨fun hempty => hf.resolve_right fun hne => hne bound hempty, fun hvoid => render_of_isVoid hvoid⟩

theorem clear_of_mem {t : Token} (ht : t ∈ f) (hne : ∀ bound, t.render d bound ≠ "") :
    f.Clear d := by
  refine .inr fun bound hempty => ?_
  obtain ⟨front, back, rfl⟩ := List.append_of_mem ht
  rw [render_append, render] at hempty
  simp only [String.append_eq_empty_iff] at hempty
  exact hne _ hempty.2.1

theorem clear_of_text {s : String} (hmem : .text s ∈ f) (hs : s ≠ "") : f.Clear d :=
  clear_of_mem hmem fun _ => hs

theorem clear_of_forall (h : ∀ t ∈ f, t.Clear d) : f.Clear d := by
  by_cases hv : f.isVoid
  · exact .inl hv
  · simp only [isVoid, List.all_eq_true, not_forall] at hv
    obtain ⟨t, ht, hvoid⟩ := hv
    exact clear_of_mem ht ((h t ht).resolve_left hvoid)

theorem clear_grouped (junction : Junction) (h : ∀ f ∈ fs, f.Clear d) :
    (grouped junction fs).Clear d := by
  unfold grouped
  split
  · exact .inl rfl
  · rename_i part hone
    have hpart : part ∈ fs.filter fun f => !f.isVoid := by simp [hone]
    exact h part (List.mem_of_mem_filter hpart)
  · exact clear_of_text (s := "(") List.mem_cons_self (by decide)

theorem clear_negated (f : Fragment) : (negated f).Clear d := by
  unfold negated
  split
  · exact .inl rfl
  · exact clear_of_text (s := "NOT (") (by simp) (by decide)

theorem clear_tokens_ofTemplate (hd : d.HasPlaceholders) :
    (pieces : List (List Char)) → (values : List Value) → ∀ t ∈ ofTemplate pieces values, t.Clear d
  | [], _ => List.forall_mem_nil _
  | [_], _ => List.forall_mem_singleton.mpr (Token.clear_text _)
  | _ :: piece :: pieces, [] =>
    have hrest := clear_tokens_ofTemplate hd (piece :: pieces) []
    List.forall_mem_cons.mpr
      ⟨Token.clear_text _, List.forall_mem_cons.mpr ⟨Token.clear_text "?", hrest⟩⟩
  | _ :: piece :: pieces, v :: vs =>
    have hrest := clear_tokens_ofTemplate hd (piece :: pieces) vs
    have hoperand : (Token.operand v).Clear d := .inr fun bound => hd (bound + 1) (Nat.succ_pos _)
    List.forall_mem_cons.mpr ⟨Token.clear_text _, List.forall_mem_cons.mpr ⟨hoperand, hrest⟩⟩

end Fragment

theorem Comparison.symbol_ne_empty (op : Comparison) : op.symbol ≠ "" := by
  cases op <;> decide

namespace Condition

open Fragment

variable {d : Dialect} {c : Condition}

/-- The tokens of a leaf always have a text, or are no more than a blank text or a constant
predicate. -/
theorem clear_leaf (hd : d.HasPlaceholders) (hleaf : c.isLeaf) :
    c.fragment.Clear d ∨ c.fragment = [.never] ∨ c.fragment = [.always] := by
  cases c with
  | group | negation => contradiction
  | verbatim text => exact .inl (clear_of_forall (List.forall_mem_singleton.mpr (Token.clear_text _)))
  | template text values => exact .inl (clear_of_forall (clear_tokens_ofTemplate hd _ values))
  | compare column op value =>
    exact .inl (clear_of_text (s := op.symbol) (by simp [fragment, piece, Piece.close])
      op.symbol_ne_empty)
  | compareColumns left op right =>
    exact .inl (clear_of_text (s := op.symbol) (by simp [fragment, piece, Piece.close])
      op.symbol_ne_empty)
  | missing column negated =>
    exact .inl (clear_of_text (List.mem_append_right _ List.mem_cons_self)
      (by cases negated <;> decide))
  | between column low high negated =>
    exact .inl (clear_of_text (s := " AND ") (by simp [fragment, piece, Piece.close]) (by decide))
  | member column values negated =>
    cases values with
    | cons v vs =>
      exact .inl (clear_of_text (s := ")") (by simp [fragment, piece, Piece.close]) (by decide))
    | nil => cases negated <;> simp [fragment, piece, Piece.close]

end Condition

theorem Fragment.clear_of_visible {d : Dialect} (hd : d.Visible) {c : Condition} (hleaf : c.isLeaf) :
    c.fragment.Clear d := by
  rcases Condition.clear_leaf hd.placeholders hleaf with hclear | hnever | halways
  · exact hclear
  · exact clear_of_mem (t := .never) (by simp [hnever]) fun _ => hd.never_ne
  · exact clear_of_mem (t := .always) (by simp [halways]) fun _ => hd.always_ne

def Piece.Clear (d : Dialect) : Piece → Prop
  | whole f => f.Clear d
  | parts _ fragments => ∀ f ∈ fragments, f.Clear d

namespace Piece

variable {d : Dialect} {p : Piece}

theorem Clear.close (h : p.Clear d) : p.close.Clear d := by
  cases p with
  | whole f => exact h
  | parts junction fragments => exact Fragment.clear_grouped junction h

theorem Clear.under (junction : Junction) (h : p.Clear d) : ∀ f ∈ p.under junction, f.Clear d := by
  cases p with
  | whole f => exact List.forall_mem_singleton.mpr h
  | parts own fragments =>
    rw [Piece.under]
    split
    · exact h
    · exact List.forall_mem_singleton.mpr h.close

end Piece

theorem Condition.clear_piece {d : Dialect} (hd : d.Visible) :
    (∀ c : Condition, c.piece.Clear d) ∧ ∀ cs j, ∀ f ∈ pieces j cs, f.Clear d := by
  refine tree_induction (fun c hleaf => ?_) (fun j parts ih => ih j)
    (fun part _ => Fragment.clear_negated _) (fun j => nofun) fun c cs ihc ihcs j => ?_
  · rw [piece_of_isLeaf hleaf]
    exact Fragment.clear_of_visible hd hleaf
  · exact List.forall_mem_append.mpr ⟨ihc.under j, ihcs j⟩

/-! ### Groups -/

namespace Fragment

variable {d : Dialect} {f : Fragment} {fs gs : List Fragment}

theorem operands_grouped (junction : Junction) (fs : List Fragment) :
    (grouped junction fs).operands d = fs.flatMap (operands d) := by
  have hkept : (fs.filter fun f => !f.isVoid).flatMap (operands d) = fs.flatMap (operands d) := by
    induction fs with
    | nil => rfl
    | cons f fs ih => by_cases hv : f.isVoid <;> simp [hv, ih, operands_of_isVoid]
  rw [← hkept, grouped]
  generalize fs.filter (fun f => !f.isVoid) = kept
  match kept with
  | [] => rfl
  | [part] => exact (List.flatMap_singleton ..).symm
  | f :: g :: gs =>
    show operands d (.text "(" :: (separated junction.separator (f :: g :: gs) ++ [.text ")"])) = _
    rw [operands_text_cons, operands_append, operands_separated, operands_text_cons, operands_nil,
      List.append_nil]

/-- What is left out for its tokens is what has no text. -/
theorem filter_renderEach (bound : Nat) (h : ∀ f ∈ fs, f.Clear d) :
    (renderEach d bound fs).filter (· ≠ "") =
      renderEach d bound (fs.filter fun f => !f.isVoid) := by
  induction fs generalizing bound with
  | nil => rfl
  | cons f fs ih =>
    obtain ⟨hf, hfs⟩ := List.forall_mem_cons.mp h
    have hrest := ih (bound + (f.operands d).length) hfs
    by_cases hv : f.isVoid
    · have htext := (hf.render_eq_empty_iff bound).mpr hv
      rw [operands_of_isVoid hv] at hrest
      simpa [renderEach, htext, hv, operands_of_isVoid hv] using hrest
    · have htext := mt (hf.render_eq_empty_iff bound).mp hv
      simpa [renderEach, htext, hv] using hrest

/-- A group is written as the group of the texts of its parts. -/
theorem render_grouped (bound : Nat) (junction : Junction) (h : ∀ f ∈ fs, f.Clear d) :
    (grouped junction fs).render d bound = junction.group (renderEach d bound fs) := by
  rw [grouped, Junction.group, filter_renderEach bound h]
  generalize fs.filter (fun f => !f.isVoid) = kept
  match kept with
  | [] => rfl
  | [part] => rfl
  | f :: g :: gs =>
    have htext := render_separated d bound junction.separator (f :: g :: gs)
    simp only [render, Token.render, Token.operands, List.length_nil, Nat.add_zero,
      List.cons_append, render_text_behind, htext, renderEach, String.append_assoc]

end Fragment

namespace Sheet

variable (s : Sheet)

/-- The texts of several fragments, and the sheet with what they bind. -/
def each (fs : List Fragment) : List String × Sheet :=
  (Fragment.renderEach s.dialect s.values.length fs,
    { s with values := s.values ++ fs.flatMap (Fragment.operands s.dialect) })

theorem each_append (fs gs : List Fragment) : s.each (fs ++ gs) =
    ((s.each fs).1 ++ ((s.each fs).2.each gs).1, ((s.each fs).2.each gs).2) := by
  simp [each, Fragment.renderEach_append]

/-- A group is written from the texts of its parts. -/
theorem append_group_each (junction : Junction) {fs : List Fragment}
    (h : ∀ f ∈ fs, f.Clear s.dialect) :
    (s.each fs).2.append (junction.group (s.each fs).1) =
      s.write (Fragment.grouped junction fs) := by
  simp [each, append, write, Fragment.render_grouped _ junction h, Fragment.operands_grouped]

theorem compileParts_cons (junction : Junction) (c : Condition) (cs : List Condition) :
    s.compileParts junction (c :: cs) =
      ((s.compileParts junction [c]).1 ++ ((s.compileParts junction [c]).2.compileParts junction cs).1,
        ((s.compileParts junction [c]).2.compileParts junction cs).2) := by
  cases c <;> simp [compileParts]

theorem compileParts_group (junction own : Junction) (inner : List Condition) :
    s.compileParts junction [.group own inner] =
      ((if own = junction then (s.compileParts own inner).1
        else [own.group (s.compileParts own inner).1]), (s.compileParts own inner).2) := by
  simp [compileParts]

/-- A condition that is no group is one part of the group around it. -/
theorem compileParts_whole (junction : Junction) {c : Condition} (hc : ∀ j cs, c ≠ .group j cs) :
    s.compileParts junction [c] =
      ([(s.aside (·.compile c)).1], (s.aside (·.compile c)).2) := by
  cases c <;> first | exact absurd rfl (hc _ _) | simp [compileParts]

theorem compileParts_eq_each (junction : Junction) {c : Condition} (hc : ∀ j cs, c ≠ .group j cs)
    (h : ∀ r : Sheet, r.dialect = s.dialect → r.compile c = r.write c.fragment) :
    s.compileParts junction [c] = s.each [c.fragment] := by
  rw [compileParts_whole s junction hc, s.aside_eq h]
  simp [each, Fragment.renderEach]

theorem compile_negation {part : Condition}
    (h : ∀ r : Sheet, r.dialect = s.dialect → r.compile part = r.write part.fragment)
    (hclear : part.fragment.Clear s.dialect) :
    s.compile (.negation part) = s.write (Condition.negation part).fragment := by
  have hempty := hclear.render_eq_empty_iff s.values.length
  rw [compile, s.aside_eq h]
  show (if part.fragment.render s.dialect s.values.length = "" then _ else _) =
    s.write (Fragment.negated part.fragment)
  by_cases hv : part.fragment.isVoid
  · rw [if_pos (hempty.mpr hv), Fragment.negated, if_pos hv, write_nil, Fragment.operands_of_isVoid hv,
      List.append_nil]
  · rw [if_neg (mt hempty.mp hv), Fragment.negated, if_neg hv]
    simp [append, write, Fragment.render, Fragment.operands_append, Fragment.render_text_behind,
      Token.render, Token.operands, String.append_assoc]

/-- In a dialect with placeholders and constant predicates, conditions are written as their tokens,
and the parts of a group as theirs. -/
theorem compile_eq_and {d : Dialect} (hd : d.Visible) :
    (∀ (c : Condition) (s : Sheet), s.dialect = d → s.compile c = s.write c.fragment ∧
      ∀ junction, s.compileParts junction [c] = s.each (c.piece.under junction)) ∧
    ∀ (cs : List Condition) (s : Sheet) (junction : Junction), s.dialect = d →
      s.compileParts junction cs = s.each (Condition.pieces junction cs) := by
  -- A group inside of one of its kind is never written itself, so the induction carries along what
  -- the group around a condition takes of it.
  refine Condition.tree_induction ?_ ?_ ?_ ?_ ?_
  · intro c hleaf s hs
    refine ⟨s.compile_of_isLeaf hleaf, fun junction => ?_⟩
    have hwhole : ∀ j cs, c ≠ .group j cs := by
      rintro j cs rfl
      contradiction
    rw [s.compileParts_eq_each junction hwhole fun r _ => r.compile_of_isLeaf hleaf,
      Condition.piece_of_isLeaf hleaf, Piece.under]
  · intro own parts ih s hs
    have hclear : ∀ f ∈ Condition.pieces own parts, f.Clear s.dialect :=
      hs ▸ (Condition.clear_piece hd).2 parts own
    have hparts := ih s own hs
    constructor
    · rw [compile, hparts]
      exact s.append_group_each own hclear
    · intro junction
      rw [compileParts_group, hparts, Condition.piece, Piece.under]
      split
      · rfl
      · simp [each, Fragment.renderEach, Fragment.render_grouped _ own hclear,
          Fragment.operands_grouped]
  · intro part ih s hs
    have hcompile : ∀ r : Sheet, r.dialect = s.dialect →
        r.compile (.negation part) = r.write (Condition.negation part).fragment := by
      intro r hr
      refine r.compile_negation (fun r' hr' => (ih r' (hr'.trans (hr.trans hs))).1) ?_
      rw [hr, hs]
      exact ((Condition.clear_piece hd).1 part).close
    exact ⟨hcompile s rfl, fun junction =>
      s.compileParts_eq_each junction (by rintro _ _ ⟨⟩) hcompile⟩
  · intro s junction hs
    simp [compileParts, each, Condition.pieces, Fragment.renderEach]
  · intro c cs ihc ihcs s junction hs
    rw [compileParts_cons, (ihc s hs).2, ihcs (s.each (c.piece.under junction)).2 junction hs,
      ← each_append]
    rfl

variable {s} (hd : s.dialect.Visible)
include hd

theorem compile_eq (c : Condition) : s.compile c = s.write c.fragment :=
  ((compile_eq_and hd).1 c s rfl).1

theorem compileAll_eq (cs : List Condition) :
    s.compileAll cs = s.write (Condition.fragmentAll cs) := by
  rw [compileAll, (compile_eq_and hd).2 cs s .and rfl]
  exact s.append_group_each .and ((Condition.clear_piece hd).2 cs .and)

/-- A clause is left out in the writing where it is left out of the tokens. -/
theorem clause_eq (keyword : String) (cs : List Condition) :
    s.clause keyword (·.compileAll cs) =
      s.write (Fragment.clause keyword (Condition.fragmentAll cs)) := by
  have hclear : (Condition.fragmentAll cs).Clear s.dialect :=
    Fragment.clear_grouped .and ((Condition.clear_piece hd).2 cs .and)
  have hempty := hclear.render_eq_empty_iff s.values.length
  rw [clause, s.aside_eq fun r hr => compileAll_eq (hr ▸ hd) cs]
  show (if (Condition.fragmentAll cs).render s.dialect s.values.length = "" then _ else _) = _
  by_cases hv : (Condition.fragmentAll cs).isVoid
  · rw [if_pos (hempty.mpr hv), Fragment.clause, if_pos hv, write_nil,
      Fragment.operands_of_isVoid hv, List.append_nil]
  · rw [if_neg (mt hempty.mp hv), Fragment.clause, if_neg hv]
    simp [append, write, Fragment.render, Token.render, Token.operands]

end Sheet

end QueryKit
