import Mathlib.Data.List.Forall2
import QueryKit.Proofs.Fragment
import QueryKit.Proofs.Reading.Expression

/-! Conditions with texts in them. A text that is written as it stands may be a disjunction, and no
parentheses are put around it. What is written is then read as the condition is meant, whatever the
truth values, exactly if no such text is an operand of a conjunction. -/

namespace QueryKit

/-! ### Writing marks -/

namespace Mark

/-- The word of a mark that is no atom. -/
def word? {α : Type} : Mark α → Option String
  | atom _ => none
  | and => some "AND"
  | or => some "OR"
  | not => some "NOT"
  | opened => some "("
  | closed => some ")"

/-- The fragment is an atom itself, or the word of another mark in any case with blanks around. -/
inductive Spells : Mark Fragment → Fragment → Prop
  | atom (f : Fragment) : Spells (.atom f) f
  | word {m : Mark Fragment} {w s : String} (hw : m.word? = some w)
    (hs : (Text.trim s).toList.map Char.toUpper = w.toList) : Spells m [.text s]

/-- The fragment writes the marks, in every dialect and behind any operands. -/
def AllSpell (ms : List (Mark Fragment)) (f : Fragment) : Prop :=
  ∃ fs, List.Forall₂ Spells ms fs ∧ ∀ d,
    f.operands d = Fragment.operands d fs.flatten ∧
      ∀ bound, f.render d bound = Fragment.render d bound fs.flatten

variable {ms ns : List (Mark Fragment)} {f g : Fragment}

theorem AllSpell.append (hf : AllSpell ms f) (hg : AllSpell ns g) :
    AllSpell (ms ++ ns) (f ++ g) := by
  obtain ⟨fs, hfs, hf⟩ := hf
  obtain ⟨gs, hgs, hg⟩ := hg
  refine ⟨fs ++ gs, List.rel_append hfs hgs, fun d => ⟨?_, fun bound => ?_⟩⟩
  · rw [List.flatten_append, Fragment.operands_append, Fragment.operands_append, (hf d).1, (hg d).1]
  · rw [List.flatten_append, Fragment.render_append, Fragment.render_append, (hf d).1, (hf d).2,
      (hg d).2]

theorem allSpell_of_spells {fs : List Fragment} (h : List.Forall₂ Spells ms fs) :
    AllSpell ms fs.flatten :=
  ⟨fs, h, fun _ => ⟨rfl, fun _ => rfl⟩⟩

theorem allSpell_not : AllSpell [.not, .opened] [.text "NOT ("] := by
  have hnot : Spells .not [.text "NOT "] := .word rfl (by decide)
  have hopened : Spells .opened [.text "("] := .word rfl (by decide)
  refine ⟨[[.text "NOT "], [.text "("]], .cons hnot (.cons hopened .nil), fun d => ?_⟩
  refine ⟨rfl, fun bound => ?_⟩
  simp [Fragment.render, Token.render]

theorem allSpell_opened : AllSpell [.opened] [.text "("] :=
  allSpell_of_spells (.cons (.word rfl (by decide)) .nil)

theorem allSpell_closed : AllSpell [.closed] [.text ")"] :=
  allSpell_of_spells (.cons (.word rfl (by decide)) .nil)

theorem allSpell_junction (j : Junction) : AllSpell [j.mark] [.text j.separator] := by
  cases j
  · exact allSpell_of_spells (.cons (.word rfl (by decide)) .nil)
  · exact allSpell_of_spells (.cons (.word rfl (by decide)) .nil)

end Mark

/-- The text of an outline is that of its marks. -/
theorem Outline.allSpell_marks {m : Condition → List (Mark Fragment)} {o : Outline Condition}
    (h : ∀ x ∈ o.leaves, Mark.AllSpell (m x) x.fragment) :
    Mark.AllSpell (o.marks m) o.fragment := by
  induction o with
  | leaf x => exact h x (by simp [leaves])
  | negated part ih => exact (Mark.allSpell_not.append (ih h)).append Mark.allSpell_closed
  | enclosed part ih => exact (Mark.allSpell_opened.append (ih h)).append Mark.allSpell_closed
  | joined j left right ihl ihr =>
    simp only [leaves, List.forall_mem_append] at h
    have hall := ((ihl h.1).append (Mark.allSpell_junction j)).append (ihr h.2)
    simpa [marks, fragment] using hall

namespace Condition

/-- Every leaf is written by its expression: a text writes some complete expression, and any other
leaf is an atom. -/
structure ExpressedBy (c : Condition) (e : Condition → Expression Fragment) : Prop where
  atoms : ∀ x ∈ c.leaves, x.isText = false → e x = .atom x.fragment
  texts : ∀ x ∈ c.leaves, x.isText = true →
    x.fragment.isVoid = false ∧ Mark.AllSpell (e x).marks x.fragment

def marks (e : Condition → Expression Fragment) (c : Condition) : List (Mark Fragment) :=
  (c.outline?.map (Outline.marks fun x => (e x).marks)).getD []

/-- What the condition means, with the expression of each leaf taken as one operand. -/
def meaning (e : Condition → Expression Fragment) (c : Condition) : Option Valuation :=
  c.fold Valuation.connectives fun x => (e x).formula.valuation

/-- No text with a disjunction outside of parentheses is an operand of a conjunction. -/
def IsSheltered (e : Condition → Expression Fragment) (c : Condition) : Prop :=
  ∀ o ∈ c.outline?, o.Sheltered fun x => (e x).width

/-- As a part of a conjunction the condition is no disjunction without parentheses. -/
def IsConjunct (e : Condition → Expression Fragment) (c : Condition) : Prop :=
  ∀ o ∈ c.sketch.under .and, o.width (fun x => (e x).width) = 1

instance (e : Condition → Expression Fragment) (c : Condition) : Decidable (c.IsSheltered e) :=
  inferInstanceAs (Decidable (∀ o ∈ c.outline?, o.Sheltered fun x => (e x).width))

instance (e : Condition → Expression Fragment) (c : Condition) : Decidable (c.IsConjunct e) :=
  inferInstanceAs (Decidable (∀ o ∈ c.sketch.under .and, o.width (fun x => (e x).width) = 1))

variable {c : Condition} {e : Condition → Expression Fragment}

theorem ExpressedBy.isVoid (he : c.ExpressedBy e) :
    ∀ x ∈ c.leaves, x.fragment.isVoid = false := by
  intro x hx
  cases htext : x.isText with
  | true => exact (he.texts x hx htext).1
  | false => exact isVoid_of_isLeaf (isLeaf_of_mem_leaves.1 c x hx) htext

theorem ExpressedBy.allSpell (he : c.ExpressedBy e) :
    ∀ x ∈ c.leaves, Mark.AllSpell (e x).marks x.fragment := by
  intro x hx
  cases htext : x.isText with
  | true => exact (he.texts x hx htext).2
  | false =>
    have hatom := Mark.allSpell_of_spells (.cons (.atom x.fragment) .nil)
    rw [he.atoms x hx htext]
    simpa [Expression.atom] using hatom

theorem sketches_append (j : Junction) (cs ds : List Condition) :
    sketches j (cs ++ ds) = sketches j cs ++ sketches j ds := by
  induction cs with
  | nil => rfl
  | cons c cs ih => rw [List.cons_append, sketches, sketches, ih, List.append_assoc]

theorem narrows_iff_isConjunct {cs : List Condition} {x : Condition} {r s : Formula Fragment}
    (hs : Parses .disjunction ((group .and cs).marks e) s)
    (hr : Parses .disjunction ((group .and (cs ++ [x])).marks e) r) :
    (∀ σ, r.valuation.value σ = .yes → s.valuation.value σ = .yes) ↔ x.IsConjunct e := by
  unfold marks at hs hr
  cases ho : (group .and cs).outline? with
  | none => exact absurd rfl (ho ▸ hs).ne_nil
  | some o =>
    cases ho' : (group .and (cs ++ [x])).outline? with
    | none => exact absurd rfl (ho' ▸ hr).ne_nil
    | some o' =>
      rw [ho] at hs
      rw [ho'] at hr
      have happend : Outline.grouped .and (sketches .and cs ++ x.sketch.under .and) = some o' := by
        have hsketches := sketches_append .and cs [x]
        rw [sketches, sketches, List.append_nil] at hsketches
        rw [← hsketches]
        exact ho'
      exact Outline.narrows_grouped_iff e ho happend hs hr

/-- A condition without leaves writes nothing and means nothing. Any other writes its expressions
with the connectives between them, and what it writes has one reading. The reading has the truth
value of the condition under all truth values, exactly if no text with a disjunction outside of
parentheses is an operand of a conjunction. One more condition in a conjunction makes nothing true
that is not true without it, exactly if it adds no such text. -/
theorem texts_keep_their_meaning_iff (he : c.ExpressedBy e) :
    (c.leaves = [] → c.fragment = [] ∧ c.meaning e = none) ∧
    (c.leaves ≠ [] → ∃ r : Formula Fragment,
      Mark.AllSpell (c.marks e) c.fragment ∧
      (∀ s : Formula Fragment, Parses .disjunction (c.marks e) s ↔ s = r) ∧
      ((∀ σ, some (r.valuation.value σ) = (c.meaning e).map (·.value σ)) ↔ c.IsSheltered e) ∧
      ∀ cs x s, c = group .and (cs ++ [x]) → Parses .disjunction ((group .and cs).marks e) s →
        ((∀ σ, r.valuation.value σ = .yes → s.valuation.value σ = .yes) ↔ x.IsConjunct e)) := by
  have hfragment := fragment_eq_outline he.isVoid
  have hmeaning := meaning_outline Valuation.connectives (fun x => (e x).formula.valuation) c
  cases ho : c.outline? with
  | none =>
    rw [ho] at hfragment hmeaning
    exact ⟨fun _ => ⟨hfragment, hmeaning.symm⟩, fun hc => absurd (outline_eq_none_iff.mp ho) hc⟩
  | some o =>
    rw [ho] at hfragment hmeaning
    have hleaves := leaves_outline ho
    have hmarks : c.marks e = o.marks fun x => (e x).marks := by
      rw [marks, ho]
      rfl
    obtain ⟨r, hr, hiff⟩ := Outline.exists_formula_iff e o
    refine ⟨fun hc => absurd (hleaves.trans hc) o.leaves_ne_nil, fun _ => ⟨r, ?_, fun s => ?_, ?_,
      fun cs x s hcs hs => ?_⟩⟩
    · rw [hmarks, hfragment]
      exact Outline.allSpell_marks fun x hx => he.allSpell x (hleaves ▸ hx)
    · rw [hmarks]
      exact ⟨fun hs => hs.unique hr, fun hs => hs ▸ hr⟩
    · rw [meaning, ← hmeaning]
      simp only [Option.map_some, Option.some_inj, hiff, IsSheltered, ho, Option.mem_some_iff,
        forall_eq']
    · rw [← hmarks, hcs] at hr
      exact narrows_iff_isConjunct hs hr

/-! ### A template of a disjunction -/

/-- The expression of a template with two values, which writes a disjunction. -/
def eitherOr : Condition → Expression Fragment
  | template _ [v, w] => .either [.text "a = ", .operand v] [.text "b = ", .operand w]
  | x => .atom x.fragment

theorem allSpell_eitherOr (v w : Value) :
    Mark.AllSpell (eitherOr (template "a = ? OR b = ?" [v, w])).marks
      (template "a = ? OR b = ?" [v, w]).fragment := by
  have hspells : List.Forall₂ Mark.Spells
      [.atom [.text "a = ", .operand v], .or, .atom [.text "b = ", .operand w]]
      [[.text "a = ", .operand v], [.text " OR "], [.text "b = ", .operand w]] :=
    .cons (.atom _) (.cons (.word rfl (by decide)) (.cons (.atom _) .nil))
  have hfragment : (template "a = ? OR b = ?" [v, w]).fragment =
      [.text "a = ", .operand v, .text " OR b = ", .operand w, .text ""] := rfl
  refine ⟨_, hspells, fun d => ⟨rfl, fun bound => ?_⟩⟩
  rw [hfragment]
  simp [Fragment.render, Token.render]
  rfl

theorem expressedBy_eitherOr
    (h : ∀ x ∈ c.leaves, x.isText = true → ∃ v w, x = template "a = ? OR b = ?" [v, w]) :
    c.ExpressedBy eitherOr := by
  refine ⟨fun x _ htext => ?_, fun x hx htext => ?_⟩
  · cases x <;> first | rfl | contradiction
  · obtain ⟨v, w, rfl⟩ := h x hx htext
    exact ⟨rfl, allSpell_eitherOr v w⟩

/-- Under a contrary the text has parentheses. -/
theorem texts_keep_their_meaning_iff_negated :
    let c : Condition := .group .and [.equals (.named "x") (.int 1),
      .negation (.template "a = ? OR b = ?" [.int 1, .int 2])]
    c.ExpressedBy eitherOr ∧ c.leaves ≠ [] ∧ c.IsSheltered eitherOr ∧
      ∃ r : Formula Fragment,
        (∀ s : Formula Fragment, Parses .disjunction (c.marks eitherOr) s ↔ s = r) ∧
        r.valuation.value [.yes, .no, .no] = .yes := by
  intro c
  have he : c.ExpressedBy eitherOr := expressedBy_eitherOr (by
    simp [c, leaves, allLeaves, equals, isText])
  have hc : c.leaves ≠ [] := by simp [c, leaves, allLeaves, equals]
  have hsheltered : c.IsSheltered eitherOr := by decide
  obtain ⟨r, -, hr, hiff, -⟩ := (texts_keep_their_meaning_iff he).2 hc
  exact ⟨he, hc, hsheltered, r, hr, Option.some.inj (hiff.mpr hsheltered _)⟩

/-- Beside another part of a conjunction the text has no parentheses: its second predicate is enough
to make the whole true, which the other part is not. -/
theorem loose_text_widens :
    let c : Condition := .group .and [.equals (.named "x") (.int 1),
      .template "a = ? OR b = ?" [.int 1, .int 2]]
    c.ExpressedBy eitherOr ∧
      c.fragment.render .postgres 0 = "(\"x\"=$1 AND a = $2 OR b = $3)" ∧
      (∃ r : Formula Fragment,
        (∀ s : Formula Fragment, Parses .disjunction (c.marks eitherOr) s ↔ s = r) ∧
        r.valuation.value [.no, .no, .yes] = .yes) ∧
      (c.meaning eitherOr).map (·.value [.no, .no, .yes]) = some .no ∧
      ∀ s : Formula Fragment,
        Parses .disjunction ((group .and [.equals (.named "x") (.int 1)]).marks eitherOr) s →
          s.valuation.value [.no, .no, .yes] = .no := by
  intro c
  have he : c.ExpressedBy eitherOr := expressedBy_eitherOr (by
    simp [c, leaves, allLeaves, equals, isText])
  have hatom : ∀ f : Fragment, Parses .conjunction [.atom f] (.atom f) :=
    fun f => (Parses.atom f).factor
  have hr : Parses .disjunction (c.marks eitherOr) _ :=
    (((hatom _).and (Parses.atom _)).conjunction.or (hatom _)).nested.factor.conjunction
  refine ⟨he, rfl, ⟨_, fun s => ⟨fun hs => hs.unique hr, fun hs => hs ▸ hr⟩, by decide⟩,
    by decide, fun s hs => ?_⟩
  rw [hs.unique (hatom _).conjunction]
  rfl

end Condition

end QueryKit
