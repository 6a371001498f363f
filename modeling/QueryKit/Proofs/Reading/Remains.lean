import QueryKit.Proofs.Reading.Tree

/-! What remains of a condition once the leaves that write nothing are left out. A condition is
written as what remains of it, and writes nothing if nothing remains; so every leaf that writes
something stands in what the condition writes. -/

namespace QueryKit

/-! ### Fragments that write something -/

namespace Fragment

variable {fs : List Fragment}

def kept (fs : List Fragment) : List Fragment :=
  fs.filter fun f => !f.isVoid

theorem kept_append (fs gs : List Fragment) : kept (fs ++ gs) = kept fs ++ kept gs :=
  List.filter_append ..

theorem kept_kept (fs : List Fragment) : kept (kept fs) = kept fs := by
  simp [kept, List.filter_filter]

theorem kept_singleton (f : Fragment) : kept [f] = if f.isVoid then [] else [f] := by
  by_cases h : f.isVoid <;> simp [kept, h]

theorem grouped_kept (junction : Junction) (fs : List Fragment) :
    grouped junction (kept fs) = grouped junction fs := by
  have hkept := kept_kept fs
  simp only [kept] at hkept
  simp only [grouped, kept, hkept]

theorem grouped_singleton (junction : Junction) (f : Fragment) :
    grouped junction [f] = if f.isVoid then [] else f := by
  by_cases h : f.isVoid <;> simp [grouped, h]

theorem isVoid_grouped_iff {junction : Junction} :
    (grouped junction fs).isVoid ↔ kept fs = [] := by
  unfold grouped kept
  split
  · rename_i hnone
    exact iff_of_true rfl hnone
  · rename_i part hone
    have hpart : part ∈ fs.filter fun f => !f.isVoid := by simp [hone]
    simpa [hone] using (List.mem_filter.mp hpart).2
  · rename_i hnone _
    simpa [isVoid, Token.isVoid] using hnone

end Fragment

namespace Piece

open Fragment (kept grouped)

variable {p : Piece}

theorem kept_under_of_isVoid (junction : Junction) (hp : p.close.isVoid) :
    kept (p.under junction) = [] := by
  cases p with
  | whole f => exact (Fragment.kept_singleton f).trans (if_pos hp)
  | parts own fragments =>
    by_cases hown : own = junction
    · simpa only [under, hown, if_true] using Fragment.isVoid_grouped_iff.mp hp
    · simp only [under, hown, if_false]
      exact (Fragment.kept_singleton _).trans (if_pos hp)

/-- A piece alone in a group is written as it is, or not at all. -/
theorem grouped_under (junction : Junction) (p : Piece) :
    grouped junction (p.under junction) = if p.close.isVoid then [] else p.close := by
  cases p with
  | whole f => exact Fragment.grouped_singleton junction f
  | parts own fragments =>
    by_cases hown : own = junction
    · subst hown
      by_cases hvoid : (grouped own fragments).isVoid
      · simp only [under, if_true, close, hvoid]
        rw [← Fragment.grouped_kept, Fragment.isVoid_grouped_iff.mp hvoid]
        rfl
      · simp [under, close, hvoid]
    · simp only [under, hown, if_false]
      exact Fragment.grouped_singleton junction _

end Piece

/-! ### Outlines -/

namespace Outline

/-- The outline and every outline in it: the operands of its junctions and what stands in its
parentheses. -/
def parts {α : Type} : Outline α → List (Outline α)
  | leaf a => [leaf a]
  | negated part => negated part :: part.parts
  | enclosed part => enclosed part :: part.parts
  | joined j left right => joined j left right :: (left.parts ++ right.parts)

theorem self_mem_parts {α : Type} (o : Outline α) : o ∈ o.parts := by
  cases o <;> exact List.mem_cons_self

theorem leaf_mem_parts {α : Type} {o : Outline α} {a : α} (ha : a ∈ o.leaves) :
    leaf a ∈ o.parts := by
  induction o with
  | leaf b => simpa [leaves, parts] using ha
  | negated part ih | enclosed part ih => exact List.mem_cons_of_mem _ (ih ha)
  | joined j left right ihl ihr =>
    refine List.mem_cons_of_mem _ (List.mem_append.mpr ?_)
    exact (List.mem_append.mp ha).imp ihl ihr

theorem leaves_subset_of_mem_parts {α : Type} {o p : Outline α} (hp : p ∈ o.parts) :
    p.leaves ⊆ o.leaves := by
  induction o with
  | leaf b => rw [List.mem_singleton.mp hp]; exact List.Subset.refl _
  | negated part ih | enclosed part ih =>
    rcases List.mem_cons.mp hp with rfl | hp
    · exact List.Subset.refl _
    · exact ih hp
  | joined j left right ihl ihr =>
    rcases List.mem_cons.mp hp with rfl | hp
    · exact List.Subset.refl _
    · rcases List.mem_append.mp hp with hp | hp
      · exact List.subset_append_of_subset_left _ (ihl hp)
      · exact List.subset_append_of_subset_right _ (ihr hp)

/-- The text of a leaf stands in the text of the outline. -/
theorem infix_of_mem_leaves {o : Outline Condition} {x : Condition} (hx : x ∈ o.leaves) :
    x.fragment <:+: o.fragment := by
  induction o with
  | leaf c => rw [List.mem_singleton.mp hx]; exact List.infix_refl _
  | negated part ih =>
    exact (ih hx).trans ⟨[.text "NOT ("], [.text ")"], rfl⟩
  | enclosed part ih => exact (ih hx).trans ⟨[.text "("], [.text ")"], rfl⟩
  | joined j left right ihl ihr =>
    rcases List.mem_append.mp hx with hx | hx
    · exact List.infix_append_of_infix_left (ihl hx)
    · exact List.infix_append_of_infix_right (List.infix_cons (ihr hx))

end Outline

namespace Condition

open Fragment (kept grouped)

mutual

/-- The condition with an empty group for every leaf that writes nothing. -/
def pruned : Condition → Condition
  | group junction parts => group junction (allPruned parts)
  | negation part => negation (pruned part)
  | c => if c.fragment.isVoid then group .and [] else c

def allPruned : List Condition → List Condition
  | [] => []
  | c :: cs => pruned c :: allPruned cs

end

theorem pruned_of_isLeaf {c : Condition} (h : c.isLeaf) :
    c.pruned = if c.fragment.isVoid then group .and [] else c := by
  cases c <;> first | rfl | contradiction

theorem leaves_pruned :
    (∀ c : Condition, c.pruned.leaves = c.leaves.filter fun x => !x.fragment.isVoid) ∧
      ∀ cs, allLeaves (allPruned cs) = (allLeaves cs).filter fun x => !x.fragment.isVoid := by
  refine tree_induction ?_ ?_ ?_ rfl ?_
  · intro c hc
    rw [pruned_of_isLeaf hc, leaves_of_isLeaf hc]
    by_cases hvoid : c.fragment.isVoid
    · simp [hvoid, leaves, allLeaves]
    · simp [hvoid, leaves_of_isLeaf hc]
  · exact fun _ parts ih => ih
  · exact fun part ih => ih
  · intro c cs ihc ihcs
    rw [allPruned, allLeaves, allLeaves, ihc, ihcs, List.filter_append]

/-- Pieces that give the same to every group write the same, or both nothing. -/
theorem close_eq_of_kept {p q : Piece} (h : ∀ j, kept (p.under j) = kept (q.under j)) :
    p.close.isVoid ∧ q.close.isVoid ∨ p.close = q.close := by
  have hgrouped : grouped .and (p.under .and) = grouped .and (q.under .and) := by
    rw [← Fragment.grouped_kept, h, Fragment.grouped_kept]
  rw [Piece.grouped_under, Piece.grouped_under] at hgrouped
  by_cases hp : p.close.isVoid <;> by_cases hq : q.close.isVoid
  · exact .inl ⟨hp, hq⟩
  · rw [if_pos hp, if_neg hq] at hgrouped
    exact absurd (hgrouped ▸ rfl) hq
  · rw [if_neg hp, if_pos hq] at hgrouped
    exact absurd (hgrouped ▸ rfl) hp
  · rw [if_neg hp, if_neg hq] at hgrouped
    exact .inr hgrouped

/-- What a condition gives to the group around it is the same, as far as it writes something. -/
theorem kept_under_pruned :
    (∀ c : Condition, ∀ j, kept (c.pruned.piece.under j) = kept (c.piece.under j)) ∧
      ∀ cs, ∀ j, kept (pieces j (allPruned cs)) = kept (pieces j cs) := by
  refine tree_induction ?_ ?_ ?_ ?_ ?_
  · intro c hc j
    rw [pruned_of_isLeaf hc]
    split
    · -- The leaf gives the group nothing, and so does the empty group in its place.
      rename_i hvoid
      rw [piece_of_isLeaf hc, Piece.kept_under_of_isVoid j (p := .whole c.fragment) hvoid]
      exact Piece.kept_under_of_isVoid j rfl
    · rfl
  · intro own parts ih j
    simp only [pruned, piece, Piece.under]
    split
    · exact ih own
    · rw [← Fragment.grouped_kept, ih own, Fragment.grouped_kept]
  · intro part ih j
    -- A contrary is written from its closed part, and only if that writes something.
    simp only [pruned, piece, Piece.under, Fragment.negated]
    rcases close_eq_of_kept ih with ⟨hpruned, hvoid⟩ | heq
    · rw [if_pos hpruned, if_pos hvoid]
    · rw [heq]
  · exact fun j => rfl
  · intro c cs ihc ihcs j
    rw [allPruned, pieces, pieces, Fragment.kept_append, Fragment.kept_append, ihc, ihcs]

/-- The outline of what remains, if anything does. -/
def remains (c : Condition) : Option (Outline Condition) :=
  c.pruned.outline?

variable {c : Condition} {o : Outline Condition}

theorem isVoid_of_mem_leaves_pruned {x : Condition} (hx : x ∈ c.pruned.leaves) :
    x.fragment.isVoid = false := by
  rw [leaves_pruned.1] at hx
  simpa using (List.mem_filter.mp hx).2

theorem mem_leaves_remains_iff (h : c.remains = some o) {x : Condition} :
    x ∈ o.leaves ↔ x ∈ c.leaves ∧ x.fragment.isVoid = false := by
  rw [leaves_outline h, leaves_pruned.1, List.mem_filter, Bool.not_eq_true']

theorem remains_eq_none_iff :
    c.remains = none ↔ ∀ x ∈ c.leaves, x.fragment.isVoid := by
  rw [remains, outline_eq_none_iff, leaves_pruned.1, List.filter_eq_nil_iff]
  simp

theorem written_of_remains (h : c.remains = some o) : o.Written :=
  (each_written c.pruned fun _ hx => isVoid_of_mem_leaves_pruned hx).close
    (fun _ _ _ => Outline.written_grouped) o h

theorem fragment_pruned (c : Condition) :
    c.pruned.fragment = (c.remains.map Outline.fragment).getD [] :=
  fragment_eq_outline fun _ hx => isVoid_of_mem_leaves_pruned hx

theorem fragment_of_remains (h : c.remains = some o) : c.fragment = o.fragment := by
  have hpruned : c.pruned.fragment = o.fragment := by rw [fragment_pruned, h]; rfl
  rcases close_eq_of_kept (kept_under_pruned.1 c) with ⟨hvoid, -⟩ | heq
  · have hwritten : c.pruned.fragment.isVoid = false := hpruned ▸ written_of_remains h
    exact absurd (hvoid.symm.trans hwritten) (by decide)
  · exact heq.symm.trans hpruned

theorem isVoid_of_remains (h : c.remains = none) : c.fragment.isVoid := by
  have hpruned : c.pruned.fragment = [] := by rw [fragment_pruned, h]; rfl
  rcases close_eq_of_kept (kept_under_pruned.1 c) with ⟨-, hvoid⟩ | heq
  · exact hvoid
  · rw [show c.fragment = c.pruned.fragment from heq.symm, hpruned]
    rfl

/-- A leaf that writes something stands in what the condition writes. -/
theorem infix_of_mem_leaves {x : Condition} (hx : x ∈ c.leaves)
    (hvoid : x.fragment.isVoid = false) : x.fragment <:+: c.fragment := by
  cases hc : c.remains with
  | none =>
    have := remains_eq_none_iff.mp hc x hx
    rw [hvoid] at this
    contradiction
  | some o =>
    rw [fragment_of_remains hc]
    exact Outline.infix_of_mem_leaves ((mem_leaves_remains_iff hc).mpr ⟨hx, hvoid⟩)

/-- Behind a keyword stands what remains of the group of the conditions, if anything does. -/
theorem clause_fragmentAll (keyword : String) (cs : List Condition) :
    Fragment.clause keyword (fragmentAll cs) =
      (((group .and cs).remains.map fun o => .text keyword :: o.fragment).getD [] : Fragment) := by
  rw [show fragmentAll cs = (group .and cs).fragment from rfl, Fragment.clause]
  cases h : (group .and cs).remains with
  | none =>
    rw [if_pos (isVoid_of_remains h)]
    rfl
  | some o =>
    have hwritten : o.fragment.isVoid = false := written_of_remains h
    rw [fragment_of_remains h, hwritten]
    rfl

end Condition

end QueryKit
