import QueryKit.Proofs.Reading.Outline

/-! The outline of a condition. What a condition writes is the text of an outline, in which groups
are spliced, unwrapped and dropped, and the outline still means what the condition means. A
condition with nothing left in it has no outline and writes nothing. -/

namespace QueryKit

/-! ### Conditions as trees -/

namespace Condition

/-- The condition is neither a group nor a contrary. -/
def isLeaf : Condition → Bool
  | group _ _ | negation _ => false
  | _ => true

/-- The condition is a text, with or without values. -/
def isText : Condition → Bool
  | verbatim _ | template _ _ => true
  | _ => false

theorem tree_induction {P : Condition → Prop} {Q : List Condition → Prop}
    (leaf : ∀ c, c.isLeaf → P c) (group : ∀ j parts, Q parts → P (group j parts))
    (negation : ∀ part, P part → P (negation part)) (nil : Q [])
    (cons : ∀ c cs, P c → Q cs → Q (c :: cs)) : (∀ c, P c) ∧ ∀ cs, Q cs := by
  have hP : ∀ c, P c := by
    intro c
    induction c using Condition.rec (motive_2 := Q) with
    | group j parts ih => exact group j parts ih
    | negation part ih => exact negation part ih
    | nil => exact nil
    | cons c cs ihc ihcs => exact cons c cs ihc ihcs
    | _ => exact leaf _ rfl
  refine ⟨hP, fun cs => ?_⟩
  induction cs with
  | nil => exact nil
  | cons c cs ih => exact cons c cs (hP c) ih

mutual

def leaves : Condition → List Condition
  | group _ parts => allLeaves parts
  | negation part => leaves part
  | c => [c]

/-- The leaves of several conditions from left to right. -/
def allLeaves : List Condition → List Condition
  | [] => []
  | c :: cs => leaves c ++ allLeaves cs

end

mutual

/-- What a condition means, given what its leaves mean. A group without parts and its contrary mean
nothing and are passed over. -/
def fold {A : Type} (k : Connectives A) (leaf : Condition → A) : Condition → Option A
  | group junction parts => foldAll k leaf junction parts
  | negation part => (fold k leaf part).map k.not
  | c => some (leaf c)

/-- What several conditions mean as parts of a group. -/
def foldAll {A : Type} (k : Connectives A) (leaf : Condition → A) (junction : Junction) :
    List Condition → Option A
  | [] => none
  | c :: cs => k.join? junction (fold k leaf c) (foldAll k leaf junction cs)

end

section Leaf

variable {A : Type} {c : Condition}

theorem leaves_of_isLeaf (h : c.isLeaf) : c.leaves = [c] := by
  cases c <;> first | rfl | contradiction

theorem fold_of_isLeaf (k : Connectives A) (leaf : Condition → A) (h : c.isLeaf) :
    c.fold k leaf = some (leaf c) := by
  cases c <;> first | rfl | contradiction

end Leaf

theorem isLeaf_of_mem_leaves :
    (∀ c : Condition, ∀ x ∈ c.leaves, x.isLeaf) ∧ ∀ cs, ∀ x ∈ allLeaves cs, x.isLeaf := by
  refine tree_induction ?_ ?_ ?_ ?_ ?_
  · intro c hc x hx
    rw [leaves_of_isLeaf hc, List.mem_singleton] at hx
    exact hx ▸ hc
  · exact fun j parts ih => ih
  · exact fun part ih => ih
  · simp [allLeaves]
  · intro c cs ihc ihcs x hx
    exact (List.mem_append.mp hx).elim (ihc x) (ihcs x)

/-- A condition is empty if all its leaves are. -/
theorem isEmpty_iff :
    (∀ c : Condition, c.isEmpty ↔ ∀ x ∈ c.leaves, x.isEmpty) ∧
      ∀ cs, allEmpty cs ↔ ∀ x ∈ allLeaves cs, x.isEmpty := by
  refine tree_induction ?_ ?_ ?_ ?_ ?_
  · intro c hc
    rw [leaves_of_isLeaf hc, List.forall_mem_singleton]
  · exact fun j parts ih => ih
  · exact fun part ih => ih
  · simp [allEmpty, allLeaves]
  · intro c cs ihc ihcs
    rw [allEmpty, allLeaves, Bool.and_eq_true, ihc, ihcs, List.forall_mem_append]

theorem fold_lists {β : Type} (f : Condition → β) :
    (∀ c : Condition, (c.fold (.lists β) fun x => [f x]).getD [] = c.leaves.map f) ∧
      ∀ cs : List Condition, ∀ j,
        (foldAll (.lists β) (fun x => [f x]) j cs).getD [] = (allLeaves cs).map f := by
  refine tree_induction ?_ ?_ ?_ ?_ ?_
  · intro c hc
    rw [fold_of_isLeaf _ _ hc, leaves_of_isLeaf hc]
    rfl
  · exact fun j parts ih => ih j
  · intro part ih
    rw [fold, leaves, ← ih]
    cases part.fold (.lists β) fun x => [f x] <;> rfl
  · exact fun j => rfl
  · intro c cs ihc ihcs j
    rw [foldAll, allLeaves, List.map_append, ← ihc, ← ihcs j]
    cases c.fold (.lists β) fun x => [f x] <;>
      cases foldAll (.lists β) (fun x => [f x]) j cs <;> cases j <;>
      simp [Connectives.join?, Connectives.join, Connectives.lists]

end Condition

/-! ### Outlines of groups -/

namespace Connectives

variable {A : Type} (k : Connectives A) (j : Junction)

/-- Meanings composed from left to right, if there are any. -/
def joinAll : List A → Option A
  | [] => none
  | a :: as => some (as.foldl (k.join j) a)

theorem joinAll_cons (a : A) (as : List A) :
    k.joinAll j (a :: as) = k.join? j (some a) (k.joinAll j as) := by
  induction as generalizing a with
  | nil => rfl
  | cons b bs ih =>
    have hleft := ih (k.join j a b)
    have hright := ih b
    simp only [joinAll, List.foldl_cons] at hleft hright ⊢
    rw [hleft, hright]
    cases bs with
    | nil => simp
    | cons c cs => simp [join_assoc]

theorem joinAll_append (as bs : List A) :
    k.joinAll j (as ++ bs) = k.join? j (k.joinAll j as) (k.joinAll j bs) := by
  induction as with
  | nil => simp [joinAll]
  | cons a as ih => rw [List.cons_append, joinAll_cons, joinAll_cons, ih, join?_assoc]

theorem joinAll_toList (a : Option A) : k.joinAll j a.toList = a := by
  cases a <;> rfl

end Connectives

namespace Outline

variable {α A : Type}

/-- The outlines of the parts of a group as one outline, if there are any. -/
def grouped (j : Junction) : List (Outline α) → Option (Outline α)
  | [] => none
  | [o] => some o
  | o :: os => some (enclosed (os.foldl (joined j) o))

theorem meaning_foldl (k : Connectives A) (w : α → A) (j : Junction) (o : Outline α)
    (os : List (Outline α)) :
    (os.foldl (joined j) o).meaning k w =
      (os.map (meaning k w)).foldl (k.join j) (o.meaning k w) := by
  induction os generalizing o with
  | nil => rfl
  | cons p os ih => exact ih (joined j o p)

theorem meaning_grouped (k : Connectives A) (w : α → A) (j : Junction) (os : List (Outline α)) :
    (grouped j os).map (meaning k w) = k.joinAll j (os.map (meaning k w)) := by
  match os with
  | [] => rfl
  | [o] => rfl
  | o :: p :: os => exact congrArg some (meaning_foldl k w j o (p :: os))

/-- An operand of any group: it is no disjunction itself, and nothing in it is in the way. -/
def Tidy (o : Outline α) : Prop :=
  (o.width fun _ => 1) = 1 ∧ o.Sheltered fun _ => 1

theorem sheltered_foldl {j : Junction} {o : Outline α} {os : List (Outline α)} (ho : o.Tidy)
    (hos : ∀ p ∈ os, p.Tidy) : (os.foldl (joined j) o).Sheltered fun _ => 1 := by
  cases j with
  | and =>
    suffices h : (os.foldl (joined .and) o).Tidy from h.2
    induction os generalizing o with
    | nil => exact ho
    | cons p os ih =>
      obtain ⟨hp, hrest⟩ := List.forall_mem_cons.mp hos
      refine ih ⟨?_, ⟨ho.1, hp.1⟩, ho.2, hp.2⟩ hrest
      rw [width, ho.1, hp.1]
  | or =>
    replace ho := ho.2
    induction os generalizing o with
    | nil => exact ho
    | cons p os ih =>
      obtain ⟨hp, hrest⟩ := List.forall_mem_cons.mp hos
      exact ih hrest ⟨ho, hp.2⟩

theorem tidy_grouped {j : Junction} {os : List (Outline α)} {o : Outline α}
    (hos : ∀ p ∈ os, p.Tidy) (ho : grouped j os = some o) : o.Tidy := by
  match os with
  | [] => contradiction
  | [p] =>
    cases ho
    exact hos _ (by simp)
  | p :: q :: os =>
    cases ho
    obtain ⟨hp, hrest⟩ := List.forall_mem_cons.mp hos
    exact ⟨rfl, sheltered_foldl hp hrest⟩

end Outline

/-- What the outline of a condition gives to that of the group around it: one outline or none, or
the outlines of the parts of a group that may still be spliced. -/
inductive Sketch (α : Type)
  | whole (o : Option (Outline α))
  | parts (junction : Junction) (outlines : List (Outline α))

namespace Sketch

variable {α A : Type}

def close : Sketch α → Option (Outline α)
  | whole o => o
  | parts j os => Outline.grouped j os

/-- The sketch as parts of a group. -/
def under (j : Junction) : Sketch α → List (Outline α)
  | whole o => o.toList
  | parts own os => if own = j then os else (Outline.grouped own os).toList

/-- Every outline in the sketch has the property. -/
def Each (P : Outline α → Prop) : Sketch α → Prop
  | whole o => ∀ p ∈ o, P p
  | parts _ os => ∀ p ∈ os, P p

/-- The property of a group's parts is one of the group. -/
def Closed (P : Outline α → Prop) : Prop :=
  ∀ j os o, (∀ p ∈ os, P p) → Outline.grouped j os = some o → P o

theorem Each.close {P : Outline α → Prop} {s : Sketch α} (hP : Closed P) (hs : s.Each P) :
    ∀ p ∈ s.close, P p := by
  cases s with
  | whole o => exact hs
  | parts j os => exact fun p hp => hP j os p hs hp

theorem Each.under {P : Outline α → Prop} {s : Sketch α} (hP : Closed P) (hs : s.Each P)
    (j : Junction) : ∀ p ∈ s.under j, P p := by
  cases s with
  | whole o => exact fun p hp => hs p (Option.mem_toList.mp hp)
  | parts own os =>
    rw [Sketch.under]
    split
    · exact hs
    · exact fun p hp => hs.close hP p (Option.mem_toList.mp hp)

def meaning? (k : Connectives A) (w : α → A) : Sketch α → Option A
  | whole o => o.map (Outline.meaning k w)
  | parts j os => k.joinAll j (os.map (Outline.meaning k w))

theorem meaning_close (k : Connectives A) (w : α → A) (s : Sketch α) :
    s.close.map (Outline.meaning k w) = s.meaning? k w := by
  cases s with
  | whole o => rfl
  | parts j os => exact Outline.meaning_grouped k w j os

theorem joinAll_under (k : Connectives A) (w : α → A) (j : Junction) (s : Sketch α) :
    k.joinAll j ((s.under j).map (Outline.meaning k w)) = s.meaning? k w := by
  cases s with
  | whole o => cases o <;> rfl
  | parts own os =>
    by_cases h : own = j
    · simp [under, h, meaning?]
    · simp only [under, h, if_false]
      rw [← Option.toList_map, k.joinAll_toList, Outline.meaning_grouped, meaning?]

end Sketch

namespace Condition

mutual

def sketch : Condition → Sketch Condition
  | group junction parts => .parts junction (sketches junction parts)
  | negation part => .whole ((sketch part).close.map .negated)
  | c => .whole (some (.leaf c))

/-- The outlines of the parts of a group of conditions. -/
def sketches (junction : Junction) : List Condition → List (Outline Condition)
  | [] => []
  | c :: cs => (sketch c).under junction ++ sketches junction cs

end

/-- The outline of a condition, if anything is left of it. -/
def outline? (c : Condition) : Option (Outline Condition) :=
  c.sketch.close

theorem sketch_of_isLeaf {c : Condition} (h : c.isLeaf) : c.sketch = .whole (some (.leaf c)) := by
  cases c <;> first | rfl | contradiction

/-- A property of the leaves that contraries and groups keep is one of the outlines. -/
theorem each_sketch {P : Outline Condition → Prop} (hP : Sketch.Closed P)
    (hnegated : ∀ o, P o → P o.negated) :
    (∀ c : Condition, (∀ x ∈ c.leaves, P (.leaf x)) → c.sketch.Each P) ∧
      ∀ cs : List Condition, (∀ x ∈ allLeaves cs, P (.leaf x)) →
        ∀ j, ∀ o ∈ sketches j cs, P o := by
  refine tree_induction ?_ ?_ ?_ ?_ ?_
  · intro c hc hleaf
    rw [sketch_of_isLeaf hc]
    rw [leaves_of_isLeaf hc] at hleaf
    simpa [Sketch.Each] using hleaf
  · exact fun j parts ih hleaf => ih hleaf j
  · intro part ih hleaf o ho
    obtain ⟨p, hp, rfl⟩ := Option.map_eq_some_iff.mp ho
    exact hnegated p ((ih hleaf).close hP p hp)
  · simp [sketches]
  · intro c cs ihc ihcs hleaf j o ho
    simp only [allLeaves, List.forall_mem_append] at hleaf
    rcases List.mem_append.mp ho with h | h
    · exact (ihc hleaf.1).under hP j o h
    · exact ihcs hleaf.2 j o h

theorem tidy_outline {c : Condition} {o : Outline Condition} (h : c.outline? = some o) :
    o.Tidy := by
  have hP : Sketch.Closed (Outline.Tidy (α := Condition)) := fun _ _ _ => Outline.tidy_grouped
  have hnegated : ∀ o : Outline Condition, o.Tidy → o.negated.Tidy := fun o ho => ⟨rfl, ho.2⟩
  have heach := (each_sketch hP hnegated).1 c fun x _ => ⟨rfl, trivial⟩
  exact heach.close hP o h

theorem meaning_sketch {A : Type} (k : Connectives A) (leaf : Condition → A) :
    (∀ c : Condition, c.sketch.meaning? k leaf = c.fold k leaf) ∧
      ∀ cs : List Condition, ∀ j,
        k.joinAll j ((sketches j cs).map (Outline.meaning k leaf)) = foldAll k leaf j cs := by
  refine tree_induction ?_ ?_ ?_ ?_ ?_
  · intro c hc
    rw [sketch_of_isLeaf hc, fold_of_isLeaf k leaf hc]
    rfl
  · exact fun j parts ih => ih j
  · intro part ih
    rw [sketch, fold, ← ih, ← part.sketch.meaning_close, Sketch.meaning?]
    cases part.sketch.close <;> rfl
  · exact fun j => rfl
  · intro c cs ihc ihcs j
    rw [sketches, List.map_append, k.joinAll_append, Sketch.joinAll_under, ihc, ihcs j, foldAll]

theorem meaning_outline {A : Type} (k : Connectives A) (leaf : Condition → A) (c : Condition) :
    c.outline?.map (Outline.meaning k leaf) = c.fold k leaf := by
  rw [outline?, Sketch.meaning_close, (meaning_sketch k leaf).1]

theorem leaves_outline {c : Condition} {o : Outline Condition} (h : c.outline? = some o) :
    o.leaves = c.leaves := by
  have hmeaning := meaning_outline (.lists Condition) (fun x => [id x]) c
  have hleaves := (fold_lists (id : Condition → Condition)).1 c
  rw [← hmeaning, h] at hleaves
  simpa [Outline.meaning_lists] using hleaves

theorem outline_eq_none_iff {c : Condition} : c.outline? = none ↔ c.leaves = [] := by
  constructor
  · intro h
    have hmeaning := meaning_outline (.lists Condition) (fun x => [id x]) c
    have hleaves := (fold_lists (id : Condition → Condition)).1 c
    rw [← hmeaning, h] at hleaves
    simpa using hleaves.symm
  · intro h
    cases ho : c.outline? with
    | none => rfl
    | some o => exact absurd ((leaves_outline ho).trans h) o.leaves_ne_nil

end Condition

/-! ### The text of an outline -/

def Outline.fragment : Outline Condition → Fragment
  | leaf c => c.fragment
  | negated part => .text "NOT (" :: part.fragment ++ [.text ")"]
  | enclosed part => .text "(" :: part.fragment ++ [.text ")"]
  | joined j left right => left.fragment ++ .text j.separator :: right.fragment

namespace Outline

theorem fragment_foldl (j : Junction) (o : Outline Condition) (os : List (Outline Condition)) :
    (os.foldl (joined j) o).fragment =
      Fragment.separated j.separator (o.fragment :: os.map fragment) := by
  induction os generalizing o with
  | nil => simp [Fragment.separated]
  | cons p os ih =>
    rw [List.foldl_cons, ih]
    cases os <;> simp [Fragment.separated, fragment]

def Written (o : Outline Condition) : Prop :=
  o.fragment.isVoid = false

theorem written_grouped {j : Junction} {os : List (Outline Condition)} {o : Outline Condition}
    (hos : ∀ p ∈ os, p.Written) (ho : grouped j os = some o) : o.Written := by
  match os with
  | [] => contradiction
  | [p] =>
    cases ho
    exact hos _ (by simp)
  | p :: q :: os =>
    cases ho
    simp [Written, fragment, Fragment.isVoid, Token.isVoid]

theorem written_negated (o : Outline Condition) : o.negated.Written := by
  simp [Written, fragment, Fragment.isVoid, Token.isVoid]

theorem grouped_fragment {j : Junction} {fs : List Fragment} {os : List (Outline Condition)}
    (h : (fs.filter fun f => !f.isVoid) = os.map fragment) :
    Fragment.grouped j fs = ((grouped j os).map fragment).getD [] := by
  unfold Fragment.grouped
  rw [h]
  match os with
  | [] => rfl
  | [o] => rfl
  | o :: p :: os =>
    have hfold := fragment_foldl j o (p :: os)
    simp only [grouped, Option.map_some, Option.getD_some, fragment, hfold]
    rfl

end Outline

/-- The sketch is that of the piece: both have the same text, apart from parts without any. -/
def Sketch.Shows : Sketch Condition → Piece → Prop
  | whole o, .whole f => f = (o.map Outline.fragment).getD []
  | parts j os, .parts own fs => own = j ∧ (fs.filter fun f => !f.isVoid) = os.map Outline.fragment
  | _, _ => False

namespace Sketch

variable {s : Sketch Condition} {p : Piece}

theorem Shows.close (h : s.Shows p) : p.close = (s.close.map Outline.fragment).getD [] := by
  cases s with
  | whole o =>
    cases p with
    | whole f => exact h
    | parts own fs => exact absurd h (by simp [Shows])
  | parts j os =>
    cases p with
    | whole f => exact absurd h (by simp [Shows])
    | parts own fs =>
      obtain ⟨rfl, hfs⟩ := h
      exact Outline.grouped_fragment hfs

theorem filter_close {f : Fragment} {o : Option (Outline Condition)}
    (hf : f = (o.map Outline.fragment).getD []) (ho : ∀ p ∈ o, p.Written) :
    ([f].filter fun f => !f.isVoid) = o.toList.map Outline.fragment := by
  subst hf
  cases o with
  | none => rfl
  | some o =>
    have hwritten : o.fragment.isVoid = false := ho o rfl
    simp [hwritten]

theorem Shows.under (h : s.Shows p) (hs : s.Each Outline.Written) (j : Junction) :
    ((p.under j).filter fun f => !f.isVoid) = (s.under j).map Outline.fragment := by
  have hclosed : Closed Outline.Written := fun _ _ _ => Outline.written_grouped
  have hclose := filter_close h.close (hs.close hclosed)
  cases s with
  | whole o =>
    cases p with
    | whole f => exact hclose
    | parts own fs => exact absurd h (by simp [Shows])
  | parts j' os =>
    cases p with
    | whole f => exact absurd h (by simp [Shows])
    | parts own fs =>
      obtain ⟨rfl, hfs⟩ := h
      by_cases hown : own = j
      · simpa [Piece.under, Sketch.under, hown] using hfs
      · simp only [Piece.under, Sketch.under, hown, if_false]
        exact hclose

end Sketch

namespace Condition

theorem each_written :
    (∀ c : Condition, (∀ x ∈ c.leaves, x.fragment.isVoid = false) →
      c.sketch.Each Outline.Written) :=
  (each_sketch (fun _ _ _ => Outline.written_grouped) fun o _ => o.written_negated).1

theorem piece_of_isLeaf {c : Condition} (h : c.isLeaf) : c.piece = .whole c.fragment := by
  cases c with
  | group | negation => contradiction
  | member column values negated => cases values <;> rfl
  | _ => rfl

/-- What a condition writes is the text of its outline, if every leaf writes something. -/
theorem shows_sketch :
    (∀ c : Condition, (∀ x ∈ c.leaves, x.fragment.isVoid = false) → c.sketch.Shows c.piece) ∧
      ∀ cs : List Condition, (∀ x ∈ allLeaves cs, x.fragment.isVoid = false) → ∀ j,
        ((pieces j cs).filter fun f => !f.isVoid) = (sketches j cs).map Outline.fragment := by
  refine tree_induction ?_ ?_ ?_ ?_ ?_
  · intro c hc _
    rw [sketch_of_isLeaf hc, piece_of_isLeaf hc]
    rfl
  · exact fun j parts ih hleaf => ⟨rfl, ih hleaf j⟩
  · intro part ih hleaf
    have hclose := (ih hleaf).close
    have hwritten := (each_written part hleaf).close fun _ _ _ => Outline.written_grouped
    rw [piece, sketch, Sketch.Shows, Fragment.negated, hclose]
    cases ho : part.sketch.close with
    | none => rfl
    | some o =>
      have : o.fragment.isVoid = false := hwritten o ho
      simp [this, Outline.fragment]
  · intro _ j
    rfl
  · intro c cs ihc ihcs hleaf j
    simp only [allLeaves, List.forall_mem_append] at hleaf
    rw [pieces, sketches, List.filter_append, List.map_append, ihcs hleaf.2 j,
      (ihc hleaf.1).under (each_written c hleaf.1) j]

/-- A leaf that is no text writes something. -/
theorem isVoid_of_isLeaf {x : Condition} (hleaf : x.isLeaf) (htext : x.isText = false) :
    x.fragment.isVoid = false := by
  cases x with
  | compareColumns left op right =>
    cases op <;>
      simp [fragment, piece, Piece.close, Fragment.isVoid, Token.isVoid, Comparison.symbol]
  | missing column negated =>
    cases negated <;> simp [fragment, piece, Piece.close, Fragment.isVoid, Token.isVoid]
  | member column values negated =>
    cases values <;> cases negated <;>
      simp [fragment, piece, Piece.close, Fragment.isVoid, Token.isVoid]
  | compare | between => simp [fragment, piece, Piece.close, Fragment.isVoid, Token.isVoid]
  | _ => contradiction

theorem fragment_eq_outline {c : Condition} (h : ∀ x ∈ c.leaves, x.fragment.isVoid = false) :
    c.fragment = (c.outline?.map Outline.fragment).getD [] :=
  (shows_sketch.1 c h).close

end Condition

end QueryKit
