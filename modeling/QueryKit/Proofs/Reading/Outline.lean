import QueryKit.Proofs.Reading.Grammar
import Mathlib.Logic.Basic

/-! Outlines: leaves that are negated, joined and put in parentheses, where a leaf may be an
expression with disjunctions of its own. What the marks of an outline say is what the outline means
if no conjunction stands next to a disjunction that has no parentheses around it. If one does, some
truth values tell the two apart. -/

namespace QueryKit

/-- The outline of an expression. -/
inductive Outline (α : Type)
  | leaf (a : α)
  /-- The contrary of an outline in parentheses. -/
  | negated (part : Outline α)
  /-- An outline in parentheses. -/
  | enclosed (part : Outline α)
  | joined (junction : Junction) (left right : Outline α)

namespace Outline

variable {α β A : Type}

def leaves : Outline α → List α
  | leaf a => [a]
  | negated part | enclosed part => part.leaves
  | joined _ left right => left.leaves ++ right.leaves

/-- The marks of an outline, given those of its leaves. -/
def marks (m : α → List (Mark β)) : Outline α → List (Mark β)
  | leaf a => m a
  | negated part => .not :: .opened :: part.marks m ++ [.closed]
  | enclosed part => .opened :: part.marks m ++ [.closed]
  | joined j left right => left.marks m ++ j.mark :: right.marks m

/-- What the outline means, with each leaf taken as one operand. -/
def meaning (k : Connectives A) (w : α → A) : Outline α → A
  | leaf a => w a
  | negated part => k.not (part.meaning k w)
  | enclosed part => part.meaning k w
  | joined j left right => k.join j (left.meaning k w) (right.meaning k w)

/-- What the marks say, as a disjunction: a conjunction takes the nearest part on either side. -/
def disjuncts (k : Connectives A) (v : α → Disjuncts A) : Outline α → Disjuncts A
  | leaf a => v a
  | negated part => .one (k.not ((part.disjuncts k v).value k.or))
  | enclosed part => .one ((part.disjuncts k v).value k.or)
  | joined .and left right => (left.disjuncts k v).glue k.and (right.disjuncts k v)
  | joined .or left right => (left.disjuncts k v).append (right.disjuncts k v)

/-- The number of parts of the disjunction outside of parentheses, given those of the leaves. -/
def width (n : α → Nat) : Outline α → Nat
  | leaf a => n a
  | negated _ | enclosed _ => 1
  | joined .and left right => left.width n + right.width n - 1
  | joined .or left right => left.width n + right.width n

/-- No operand of a conjunction is a disjunction that has no parentheses around it. -/
def Sheltered (n : α → Nat) : Outline α → Prop
  | leaf _ => True
  | negated part | enclosed part => part.Sheltered n
  | joined .and left right =>
    (left.width n = 1 ∧ right.width n = 1) ∧ left.Sheltered n ∧ right.Sheltered n
  | joined .or left right => left.Sheltered n ∧ right.Sheltered n

instance decidableSheltered (n : α → Nat) : (o : Outline α) → Decidable (o.Sheltered n)
  | leaf _ => isTrue trivial
  | negated part | enclosed part => decidableSheltered n part
  | joined .and left right =>
    have := decidableSheltered n left
    have := decidableSheltered n right
    inferInstanceAs (Decidable (_ ∧ _ ∧ _))
  | joined .or left right =>
    have := decidableSheltered n left
    have := decidableSheltered n right
    inferInstanceAs (Decidable (_ ∧ _))

theorem meaning_lists (m : α → β) (o : Outline α) :
    o.meaning (.lists β) (fun a => [m a]) = o.leaves.map m := by
  induction o with
  | leaf a => rfl
  | negated part ih | enclosed part ih => exact ih
  | joined j left right ihl ihr =>
    rw [meaning, ihl, ihr, leaves, List.map_append]
    cases j <;> rfl

theorem meaning_congr (k : Connectives A) {w w' : α → A} {o : Outline α}
    (h : ∀ a ∈ o.leaves, w a = w' a) : o.meaning k w = o.meaning k w' := by
  induction o with
  | leaf a => exact h a (by simp [leaves])
  | negated part ih => exact congrArg k.not (ih h)
  | enclosed part ih => exact ih h
  | joined j left right ihl ihr =>
    simp only [leaves, List.forall_mem_append] at h
    rw [meaning, ihl h.1, ihr h.2, meaning]

theorem leaves_ne_nil (o : Outline α) : o.leaves ≠ [] := by
  induction o with
  | leaf a => simp [leaves]
  | negated part ih | enclosed part ih => exact ih
  | joined j left right ihl ihr => simp [leaves, ihl]

/-! ### What the marks say -/

section Disjuncts

variable {k : Connectives A} {leaf : β → A} {m : α → List (Mark β)} {v : α → Disjuncts A}
  {n : α → Nat}

theorem disjoined_marks (hv : ∀ a, Disjoined k leaf (m a) (v a)) (o : Outline α) :
    Disjoined k leaf (o.marks m) (o.disjuncts k v) := by
  induction o with
  | leaf a => exact hv a
  | negated part ih => exact .one ih.means.nested.not.factor
  | enclosed part ih => exact .one ih.means.nested.factor
  | joined j left right ihl ihr =>
    cases j
    · exact ihl.glue ihr
    · exact ihl.append ihr

theorem count_disjuncts (hn : ∀ a, (v a).count = n a) (o : Outline α) :
    (o.disjuncts k v).count = o.width n := by
  induction o with
  | leaf a => exact hn a
  | negated part | enclosed part => rfl
  | joined j left right ihl ihr =>
    cases j
    · rw [disjuncts, Disjuncts.count_glue, ihl, ihr, width]
    · rw [disjuncts, Disjuncts.count_append, ihl, ihr, width]

/-- Joined outlines take each other's parts in the same way from whichever side. -/
theorem disjuncts_foldl (o p : Outline α) (ps : List (Outline α)) :
    (ps.foldl (joined .and) (joined .and o p)).disjuncts k v =
      (o.disjuncts k v).glue k.and ((ps.foldl (joined .and) p).disjuncts k v) := by
  induction ps generalizing o p with
  | nil => rfl
  | cons q ps ih =>
    rw [List.foldl_cons, ih, List.foldl_cons, ih, disjuncts, Disjuncts.glue_assoc k.and_assoc]

theorem width_pos (hn : ∀ a, 0 < n a) (o : Outline α) : 0 < o.width n := by
  induction o with
  | leaf a => exact hn a
  | negated part | enclosed part => exact Nat.one_pos
  | joined j left right ihl ihr => cases j <;> simp only [width] <;> omega

theorem width_foldl (hn : ∀ a, 0 < n a) (p : Outline α) (ps : List (Outline α)) :
    (ps.foldl (joined .and) p).width n = 1 ↔ ∀ q ∈ p :: ps, q.width n = 1 := by
  induction ps generalizing p with
  | nil => simp
  | cons q ps ih =>
    have hp := width_pos hn p
    have hq := width_pos hn q
    rw [List.foldl_cons, ih, List.forall_mem_cons, List.forall_mem_cons, List.forall_mem_cons,
      ← and_assoc, width]
    refine and_congr_left' ?_
    omega

theorem disjuncts_eq_one (hn : ∀ a, (v a).count = n a) {o : Outline α} (ho : o.width n = 1) :
    ∃ a, o.disjuncts k v = .one a :=
  Disjuncts.eq_one_of_count ((count_disjuncts hn o).trans ho)

/-- The marks of a sheltered outline say what the outline means. -/
theorem value_disjuncts (hn : ∀ a, (v a).count = n a) {o : Outline α} (ho : o.Sheltered n) :
    (o.disjuncts k v).value k.or = o.meaning k fun a => (v a).value k.or := by
  induction o with
  | leaf a => rfl
  | negated part ih => exact congrArg k.not (ih ho)
  | enclosed part ih => exact ih ho
  | joined j left right ihl ihr =>
    cases j with
    | and =>
      obtain ⟨⟨hl, hr⟩, hsl, hsr⟩ := ho
      obtain ⟨a, ha⟩ := disjuncts_eq_one (k := k) hn hl
      obtain ⟨b, hb⟩ := disjuncts_eq_one (k := k) hn hr
      have hla := ihl hsl
      have hrb := ihr hsr
      rw [ha] at hla
      rw [hb] at hrb
      rw [disjuncts, ha, hb, meaning, ← hla, ← hrb]
      rfl
    | or =>
      obtain ⟨hsl, hsr⟩ := ho
      rw [disjuncts, Disjuncts.value_append k.or_assoc, ihl hsl, ihr hsr]
      rfl

end Disjuncts

end Outline

/-! ### Telling the two apart -/

/-- Every part of the disjunction has the truth value for its share of the truth values. -/
def Disjuncts.Takes : Disjuncts Valuation → List Truth → Truth → Prop
  | one v, σ, t => v.Takes σ t
  | more v rest, σ, t => ∃ σ₁ σ₂, σ = σ₁ ++ σ₂ ∧ v.Takes σ₁ t ∧ rest.Takes σ₂ t

namespace Disjuncts

open QueryKit.Valuation

variable {ds es : Disjuncts Valuation} {σ τ : List Truth} {t u : Truth}

theorem Takes.value (h : ds.Takes σ t) : (ds.value connectives.or).Takes σ t := by
  induction ds generalizing σ with
  | one v => exact h
  | more v rest ih =>
    obtain ⟨σ₁, σ₂, rfl, hv, hrest⟩ := h
    have hor := hv.or (ih hrest)
    rwa [Truth.or_self] at hor

theorem Takes.append (hd : ds.Takes σ t) (he : es.Takes τ t) :
    (ds.append es).Takes (σ ++ τ) t := by
  induction ds generalizing σ with
  | one v => exact ⟨σ, τ, rfl, hd, he⟩
  | more v rest ih =>
    obtain ⟨σ₁, σ₂, rfl, hv, hrest⟩ := hd
    exact ⟨σ₁, σ₂ ++ τ, List.append_assoc .., hv, ih hrest⟩

theorem Takes.glue (hd : ds.Takes σ t) (he : es.Takes τ t) :
    (ds.glue connectives.and es).Takes (σ ++ τ) t := by
  induction ds generalizing σ with
  | one v =>
    cases es with
    | one w =>
      have hand := Valuation.Takes.and hd he
      rwa [Truth.and_self] at hand
    | more w rest =>
      obtain ⟨τ₁, τ₂, rfl, hw, hrest⟩ := he
      have hand := Valuation.Takes.and hd hw
      rw [Truth.and_self] at hand
      exact ⟨σ ++ τ₁, τ₂, (List.append_assoc ..).symm, hand, hrest⟩
  | more v rest ih =>
    obtain ⟨σ₁, σ₂, rfl, hv, hrest⟩ := hd
    exact ⟨σ₁, σ₂ ++ τ, List.append_assoc .., hv, ih hrest⟩

/-- Two disjunctions around a conjunction have some value. -/
theorem Takes.exists_glue (hd : ds.Takes σ t) (he : es.Takes τ u) :
    ∃ s, ((ds.glue connectives.and es).value connectives.or).Takes (σ ++ τ) s := by
  induction ds generalizing σ with
  | one v =>
    cases es with
    | one w => exact ⟨_, Valuation.Takes.and hd he⟩
    | more w rest =>
      obtain ⟨τ₁, τ₂, rfl, hw, hrest⟩ := he
      rw [← List.append_assoc]
      exact ⟨_, (Valuation.Takes.and hd hw).or hrest.value⟩
  | more v rest ih =>
    obtain ⟨σ₁, σ₂, rfl, hv, hrest⟩ := hd
    obtain ⟨s, hs⟩ := ih hrest
    rw [List.append_assoc]
    exact ⟨_, hv.or hs⟩

/-- The first part of a disjunction escapes a conjunction behind it. -/
theorem Takes.glue_left (hcount : ds.count ≠ 1) (hd : ds.Takes σ .yes) (he : es.Takes τ .no) :
    ((ds.glue connectives.and es).value connectives.or).Takes (σ ++ τ) .yes := by
  cases ds with
  | one v => exact absurd rfl hcount
  | more v rest =>
    obtain ⟨σ₁, σ₂, rfl, hv, hrest⟩ := hd
    obtain ⟨s, hs⟩ := hrest.exists_glue he
    have hor := hv.or hs
    rwa [Truth.yes_or, ← List.append_assoc] at hor

/-- The last part of a disjunction escapes a conjunction before it. -/
theorem Takes.glue_right (hcount : es.count ≠ 1) (hd : ds.Takes σ .no) (he : es.Takes τ .yes) :
    ((ds.glue connectives.and es).value connectives.or).Takes (σ ++ τ) .yes := by
  induction ds generalizing σ with
  | one v =>
    cases es with
    | one w => exact absurd rfl hcount
    | more w rest =>
      obtain ⟨τ₁, τ₂, rfl, hw, hrest⟩ := he
      rw [← List.append_assoc]
      exact (Valuation.Takes.and hd hw).or hrest.value
  | more v rest ih =>
    obtain ⟨σ₁, σ₂, rfl, hv, hrest⟩ := hd
    rw [List.append_assoc]
    exact hv.or (ih hrest)

/-- Where one conjunction follows a disjunction, the disjunction is true if the whole is. -/
theorem yes_of_glue {w : Valuation}
    (h : ((ds.glue connectives.and (.one w)).value connectives.or).value σ = .yes) :
    (ds.value connectives.or).value σ = .yes := by
  induction ds generalizing σ with
  | one v => exact (Truth.and_eq_yes.mp h).1
  | more v rest ih => exact Truth.or_eq_yes.mpr ((Truth.or_eq_yes.mp h).imp_right ih)

end Disjuncts

namespace Outline

open QueryKit.Valuation

variable {α : Type} {v : α → Disjuncts Valuation} {n : α → Nat}

/-- What an outline means if its leaves are disjunctions. -/
abbrev sense (v : α → Disjuncts Valuation) (o : Outline α) : Valuation :=
  o.meaning connectives fun a => (v a).value connectives.or

/-- The outline and what its marks say may get any one truth value together. -/
theorem exists_takes (hv : ∀ a t, ∃ σ, (v a).Takes σ t) (o : Outline α) (t : Truth) :
    ∃ σ, (o.disjuncts connectives v).Takes σ t ∧ (o.sense v).Takes σ t := by
  induction o generalizing t with
  | leaf a =>
    obtain ⟨σ, h⟩ := hv a t
    exact ⟨σ, h, h.value⟩
  | negated part ih =>
    obtain ⟨σ, hd, hm⟩ := ih t.not
    have hnot := hd.value.not
    have hnot' := hm.not
    rw [Truth.not_not] at hnot hnot'
    exact ⟨σ, hnot, hnot'⟩
  | enclosed part ih =>
    obtain ⟨σ, hd, hm⟩ := ih t
    exact ⟨σ, hd.value, hm⟩
  | joined j left right ihl ihr =>
    obtain ⟨σ, hdl, hml⟩ := ihl t
    obtain ⟨τ, hdr, hmr⟩ := ihr t
    cases j with
    | and =>
      have hand := hml.and hmr
      rw [Truth.and_self] at hand
      exact ⟨σ ++ τ, hdl.glue hdr, hand⟩
    | or =>
      have hor := hml.or hmr
      rw [Truth.or_self] at hor
      exact ⟨σ ++ τ, hdl.append hdr, hor⟩

/-- The marks have a truth value that is certain, and the outline has the contrary. -/
def Differs (v : α → Disjuncts Valuation) (o : Outline α) (σ : List Truth) (t : Truth) : Prop :=
  t ≠ .unknown ∧ ((o.disjuncts connectives v).value connectives.or).Takes σ t ∧
    (o.sense v).Takes σ t.not

theorem Differs.negated {part : Outline α} {σ : List Truth} {t : Truth}
    (h : part.Differs v σ t) : (negated part).Differs v σ t.not := by
  obtain ⟨ht, hd, hm⟩ := h
  exact ⟨Truth.not_ne_unknown ht, hd.not, hm.not⟩

/-- A difference in one operand of a disjunction shows if the other operand is false. -/
theorem exists_difference_or (hv : ∀ a t, ∃ σ, (v a).Takes σ t) {left right : Outline α}
    (h : (∃ σ t, left.Differs v σ t) ∨ ∃ σ t, right.Differs v σ t) :
    ∃ σ t, (joined .or left right).Differs v σ t := by
  simp only [Differs, disjuncts, Disjuncts.value_append connectives.or_assoc]
  rcases h with ⟨σ, t, ht, hd, hm⟩ | ⟨τ, t, ht, hd, hm⟩
  · obtain ⟨τ, hdr, hmr⟩ := right.exists_takes hv .no
    have hor := hd.or hdr.value
    have hor' := hm.or hmr
    rw [Truth.or_no] at hor hor'
    exact ⟨σ ++ τ, t, ht, hor, hor'⟩
  · obtain ⟨σ, hdl, hml⟩ := left.exists_takes hv .no
    have hor := hdl.value.or hd
    have hor' := hml.or hm
    rw [Truth.no_or] at hor hor'
    exact ⟨σ ++ τ, t, ht, hor, hor'⟩

/-- A difference in one operand of a conjunction without disjunctions shows if the other operand is
true. -/
theorem exists_difference_and (hv : ∀ a t, ∃ σ, (v a).Takes σ t) (hn : ∀ a, (v a).count = n a)
    {left right : Outline α} (hl : left.width n = 1) (hr : right.width n = 1)
    (h : (∃ σ t, left.Differs v σ t) ∨ ∃ σ t, right.Differs v σ t) :
    ∃ σ t, (joined .and left right).Differs v σ t := by
  obtain ⟨a, ha⟩ := disjuncts_eq_one (k := connectives) hn hl
  obtain ⟨b, hb⟩ := disjuncts_eq_one (k := connectives) hn hr
  simp only [Differs, disjuncts, ha, hb] at h ⊢
  rcases h with ⟨σ, t, ht, hd, hm⟩ | ⟨τ, t, ht, hd, hm⟩
  · obtain ⟨τ, hdr, hmr⟩ := right.exists_takes hv .yes
    rw [hb] at hdr
    have hand := hd.and hdr.value
    have hand' := hm.and hmr
    rw [Truth.and_yes] at hand hand'
    exact ⟨σ ++ τ, t, ht, hand, hand'⟩
  · obtain ⟨σ, hdl, hml⟩ := left.exists_takes hv .yes
    rw [ha] at hdl
    have hand := hdl.value.and hd
    have hand' := hml.and hm
    rw [Truth.yes_and] at hand hand'
    exact ⟨σ ++ τ, t, ht, hand, hand'⟩

/-- A disjunction beside a conjunction is true by the part that the conjunction does not take. -/
theorem exists_difference_of_width (hv : ∀ a t, ∃ σ, (v a).Takes σ t)
    (hn : ∀ a, (v a).count = n a) {left right : Outline α}
    (h : left.width n ≠ 1 ∨ right.width n ≠ 1) :
    ∃ σ t, (joined .and left right).Differs v σ t := by
  rw [← count_disjuncts (k := connectives) hn, ← count_disjuncts (k := connectives) hn] at h
  rcases h with hl | hr
  · obtain ⟨σ, hdl, hml⟩ := left.exists_takes hv .yes
    obtain ⟨τ, hdr, hmr⟩ := right.exists_takes hv .no
    exact ⟨σ ++ τ, .yes, by decide, hdl.glue_left hl hdr, hml.and hmr⟩
  · obtain ⟨σ, hdl, hml⟩ := left.exists_takes hv .no
    obtain ⟨τ, hdr, hmr⟩ := right.exists_takes hv .yes
    exact ⟨σ ++ τ, .yes, by decide, hdl.glue_right hr hdr, hml.and hmr⟩

/-- Some truth values make an outline true and its marks false, or the other way round, if the
outline is not sheltered. -/
theorem exists_difference (hv : ∀ a t, ∃ σ, (v a).Takes σ t) (hn : ∀ a, (v a).count = n a)
    {o : Outline α} (ho : ¬o.Sheltered n) : ∃ σ t, o.Differs v σ t := by
  induction o with
  | leaf a => exact absurd trivial ho
  | negated part ih =>
    obtain ⟨σ, t, h⟩ := ih ho
    exact ⟨σ, t.not, h.negated⟩
  | enclosed part ih => exact ih ho
  | joined j left right ihl ihr =>
    cases j with
    | or => exact exists_difference_or hv ((not_and_or.mp ho).imp ihl ihr)
    | and =>
      rcases not_and_or.mp ho with hwidth | hparts
      · exact exists_difference_of_width hv hn (not_and_or.mp hwidth)
      · by_cases hwidth : left.width n = 1 ∧ right.width n = 1
        · exact exists_difference_and hv hn hwidth.1 hwidth.2 ((not_and_or.mp hparts).imp ihl ihr)
        · exact exists_difference_of_width hv hn (not_and_or.mp hwidth)

/-- The marks of an outline say what the outline means, under all truth values, exactly if the
outline is sheltered. -/
theorem says_meaning_iff (hv : ∀ a t, ∃ σ, (v a).Takes σ t) (hn : ∀ a, (v a).count = n a)
    (o : Outline α) :
    (∀ σ, ((o.disjuncts connectives v).value connectives.or).value σ = (o.sense v).value σ) ↔
      o.Sheltered n := by
  constructor
  · refine fun h => Decidable.byContradiction fun ho => ?_
    obtain ⟨σ, t, ht, ⟨-, hd⟩, -, hm⟩ := exists_difference hv hn ho
    have heq := h σ
    rw [hd, hm] at heq
    exact Truth.ne_not ht heq
  · exact fun ho σ => congrFun (congrArg Valuation.value (value_disjuncts hn ho)) σ

/-- More outlines behind a conjunction make nothing true that is not true without them, exactly if
none of them is a disjunction that has no parentheses around it. -/
theorem narrows_iff (hv : ∀ a t, ∃ σ, (v a).Takes σ t) (hn : ∀ a, (v a).count = n a)
    (left p : Outline α) (ps : List (Outline α)) :
    (∀ σ, (((ps.foldl (joined .and) (joined .and left p)).disjuncts connectives v).value
        connectives.or).value σ = .yes →
      ((left.disjuncts connectives v).value connectives.or).value σ = .yes) ↔
      ∀ q ∈ p :: ps, q.width n = 1 := by
  have hpos : ∀ a, 0 < n a := fun a => hn a ▸ (v a).count_pos
  rw [← width_foldl hpos, disjuncts_foldl]
  constructor
  · refine fun h => Decidable.byContradiction fun hwidth => ?_
    rw [← count_disjuncts (k := connectives) hn] at hwidth
    obtain ⟨σ, hleft, -⟩ := left.exists_takes hv .no
    obtain ⟨τ, hright, -⟩ := (ps.foldl (joined .and) p).exists_takes hv .yes
    have hyes := h _ (Disjuncts.Takes.glue_right hwidth hleft hright).2
    obtain ⟨hsize, hno⟩ := hleft.value
    rw [← Valuation.value_take, ← hsize, List.take_left, hno] at hyes
    contradiction
  · intro hwidth σ h
    obtain ⟨w, hw⟩ := disjuncts_eq_one (k := connectives) (v := v) hn hwidth
    rw [hw] at h
    exact Disjuncts.yes_of_glue h

end Outline

end QueryKit
