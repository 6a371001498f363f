import QueryKit.Proofs.Check
import QueryKit.Proofs.Identifier
import QueryKit.Proofs.Operand.Holed

/-! The sites of a condition, read from left to right and depth first. A condition that passes its
check lays out its sites, whatever groups are spliced, unwrapped or dropped on the way. -/

namespace QueryKit

namespace Site

/-- The sites of a list of values with commas between them. -/
def ofList (lead : String) : List Value → List Site
  | [] => []
  | v :: vs => ⟨lead, v⟩ :: vs.map fun w => ⟨", ", w⟩

/-- The sites of a template behind a text: each value takes the place of a mark. -/
def ofTemplate (front : String) : List (List Char) → List Value → List Site
  | piece :: pieces, v :: vs => ⟨front ++ String.ofList piece, v⟩ :: ofTemplate "" pieces vs
  | _, _ => []

end Site

namespace Condition

mutual

/-- The sites of a condition in reading order. -/
def sites (d : Dialect) : Condition → List Site
  | compare column op v => [⟨column.text d ++ op.symbol, v⟩]
  | compareColumns _ _ _ | missing _ _ | verbatim _ => []
  | member column values negated =>
    Site.ofList (column.text d ++ if negated then " NOT IN (" else " IN (") values
  | between column low high negated =>
    [⟨column.text d ++ if negated then " NOT BETWEEN " else " BETWEEN ", low⟩, ⟨" AND ", high⟩]
  | group _ parts => allSites d parts
  | negation part => sites d part
  | template text values => Site.ofTemplate "" (Text.splitAt '?' text.toList) values

def allSites (d : Dialect) : List Condition → List Site
  | [] => []
  | c :: cs => sites d c ++ allSites d cs

end

end Condition

/-! ### Leaves -/

namespace Fragment

variable {d : Dialect} {f : Fragment}

theorem lays_ofValues (hf : f.operands d = []) (v : Value) (vs : List Value) :
    Lays d (f ++ ofValues (v :: vs)) (Site.ofList (f.render d 0) (v :: vs)) := by
  induction vs generalizing f v with
  | nil => simpa [ofValues, separated, Site.ofList] using lays_operand hf v
  | cons w ws ih =>
    have hrest : Lays d ([.text ", "] ++ ofValues (w :: ws)) (Site.ofList ", " (w :: ws)) := by
      simpa [render, Token.render] using ih (f := [.text ", "]) rfl w
    simpa [ofValues, separated, Site.ofList] using (lays_operand hf v).append hrest

theorem lays_ofTemplate (hf : f.operands d = []) (pieces : List (List Char))
    (values : List Value) (h : pieces.length = values.length + 1) :
    Lays d (f ++ ofTemplate pieces values) (Site.ofTemplate (f.render d 0) pieces values) := by
  induction values generalizing f pieces with
  | nil =>
    match pieces, h with
    | [piece], _ =>
      simpa [ofTemplate, Site.ofTemplate] using
        lays_of_operands_nil (operands_text_behind hf (String.ofList piece))
  | cons v vs ih =>
    match pieces, h with
    | piece :: next :: pieces, h =>
      have hfirst := lays_operand (operands_text_behind hf (String.ofList piece)) v
      have hrest := ih (f := []) rfl (next :: pieces) (by simpa using h)
      rw [render_text_behind] at hfirst
      simpa [ofTemplate, Site.ofTemplate, render] using hfirst.append hrest

end Fragment

namespace Condition

open Fragment

variable {d : Dialect}

theorem length_pieces_of_checkTemplate {text : String} {values : List Value}
    (h : checkTemplate text values = .ok ()) :
    (Text.splitAt '?' text.toList).length = values.length + 1 := by
  rw [Text.length_splitAt, checkTemplate_ok_iff.mp h]

end Condition

/-- A piece lays out sites: as one fragment, or part by part. -/
def Piece.Lays (d : Dialect) : Piece → List Site → Prop
  | whole f, sites => f.Lays d sites
  | parts _ fragments, sites =>
    ∃ layouts, List.Forall₂ (Fragment.Lays d) fragments layouts ∧ layouts.flatten = sites

namespace Piece

variable {d : Dialect} {p : Piece} {sites : List Site}

theorem Lays.close (h : p.Lays d sites) : p.close.Lays d sites := by
  cases p with
  | whole f => exact h
  | parts junction fragments =>
    obtain ⟨layouts, hparts, rfl⟩ := h
    exact Fragment.Lays.grouped junction hparts

theorem Lays.under (junction : Junction) (h : p.Lays d sites) :
    ∃ layouts, List.Forall₂ (Fragment.Lays d) (p.under junction) layouts ∧
      layouts.flatten = sites := by
  cases p with
  | whole f => exact ⟨[sites], .cons h .nil, by simp⟩
  | parts own fragments =>
    by_cases hown : own = junction
    · obtain ⟨layouts, hparts, rfl⟩ := h
      exact ⟨layouts, by simpa [Piece.under, hown] using hparts, rfl⟩
    · refine ⟨[sites], ?_, by simp⟩
      simp only [Piece.under, hown, if_false]
      exact .cons h.close .nil

end Piece

theorem Fragment.Lays.negated {d : Dialect} {f : Fragment} {sites : List Site}
    (h : f.Lays d sites) : (Fragment.negated f).Lays d sites := by
  unfold Fragment.negated
  split
  · rw [h.nil_of_isVoid ‹_›]
    exact lays_of_operands_nil rfl
  · exact (h.behind_text "NOT (").before_text ")"

namespace Condition

open Fragment

variable {d : Dialect}

theorem render_column_text (column : Column) (s : String) :
    Fragment.render d 0 (column.fragment ++ [.text s]) = column.text d ++ s :=
  render_text_behind d 0 column.fragment s

mutual

/-- A condition that passes its check lays out its sites, as one fragment or part by part. -/
theorem lays_piece : (c : Condition) → c.check = .ok () → c.piece.Lays d (c.sites d)
  | compare column op v, _ => by
    have h := lays_operand (operands_text_behind (column.operands_fragment d) op.symbol) v
    simpa [render_column_text, piece, Piece.Lays, sites] using h
  | compareColumns left op right, _ => by
    apply lays_of_operands_nil
    simp [operands_append]
  | missing column negated, _ =>
    lays_of_operands_nil (operands_text_behind (column.operands_fragment d) _)
  | member _ [] negated, _ => by
    apply lays_of_operands_nil
    cases negated <;> rfl
  | member column (v :: vs) negated, _ => by
    have h := lays_ofValues (operands_text_behind (column.operands_fragment d)
      (if negated then " NOT IN (" else " IN (")) v vs
    rw [render_column_text, List.append_assoc] at h
    exact h.before_text ")"
  | between column low high negated, _ => by
    have hlow := lays_operand (operands_text_behind (column.operands_fragment d)
      (if negated then " NOT BETWEEN " else " BETWEEN ")) low
    have hhigh := lays_operand (d := d) (f := [.text " AND "]) rfl high
    rw [render_column_text] at hlow
    simpa [piece, Piece.Lays, sites, render, Token.render] using hlow.append hhigh
  | group junction parts, h => lays_pieces junction parts h
  | negation part, h => (lays_piece part h).close.negated
  | verbatim text, _ => lays_text _
  | template text values, h =>
    lays_ofTemplate (d := d) (f := []) rfl _ _ (length_pieces_of_checkTemplate h)

theorem lays_pieces (junction : Junction) : (cs : List Condition) → checkAll cs = .ok () →
    ∃ layouts, List.Forall₂ (Fragment.Lays d) (pieces junction cs) layouts ∧
      layouts.flatten = allSites d cs
  | [], _ => ⟨[], .nil, rfl⟩
  | c :: cs, h => by
    obtain ⟨hc, hcs⟩ := List.forall_mem_cons.mp (checkAll_ok_iff.mp h)
    obtain ⟨first, hfirst, hflat⟩ := (lays_piece c hc).under junction
    obtain ⟨more, hmore, hflat'⟩ := lays_pieces junction cs (checkAll_ok_iff.mpr hcs)
    exact ⟨first ++ more, List.rel_append hfirst hmore, by simp [hflat, hflat', allSites]⟩

end

theorem lays_fragment {c : Condition} (h : c.check = .ok ()) : c.fragment.Lays d (c.sites d) :=
  (lays_piece c h).close

theorem lays_fragmentAll {cs : List Condition} (h : checkAll cs = .ok ()) :
    (fragmentAll cs).Lays d (allSites d cs) := by
  obtain ⟨layouts, hlays, hflat⟩ := lays_pieces (d := d) .and cs h
  rw [← hflat]
  exact Fragment.Lays.grouped .and hlays

end Condition

end QueryKit
