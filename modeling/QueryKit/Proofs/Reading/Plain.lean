import QueryKit.Proofs.Reading.Leaf
import QueryKit.Proofs.Reading.Tree

/-! Reading conditions back. The text of a condition made of predicates, groups and contraries has
one reading by the grammar of conditions. The reading holds the predicates of the condition in their
order, and it has the truth value of the condition whatever truth values the predicates have. -/

namespace QueryKit

/-! ### Outlines without disjunctions in their leaves -/

namespace Outline

variable {α β A : Type}

/-- The marks of an outline whose leaves are atoms. -/
def atomMarks (m : α → β) (o : Outline α) : List (Mark β) :=
  o.marks fun a => [.atom (m a)]

theorem means_atomMarks (m : α → β) {o : Outline α} (ho : o.Sheltered fun _ => 1)
    (k : Connectives A) (leaf : β → A) :
    Means k leaf .disjunction (o.atomMarks m) (o.meaning k fun a => leaf (m a)) := by
  have hv : ∀ a, Disjoined k leaf [.atom (m a)] (.one (leaf (m a))) :=
    fun a => .one (Means.atom (m a)).factor
  have hvalue := value_disjuncts (k := k) (v := fun a => .one (leaf (m a))) (fun _ => rfl) ho
  have hmeans := (disjoined_marks hv o).means
  rwa [hvalue] at hmeans

/-- The marks have one reading, and it means what the outline means, whatever meanings are. -/
theorem exists_formula (m : α → β) {o : Outline α} (ho : o.Sheltered fun _ => 1) :
    ∃ r : Formula β, Parses .disjunction (o.atomMarks m) r ∧
      ∀ {A : Type} (k : Connectives A) (leaf : β → A),
        r.fold k leaf = o.meaning k fun a => leaf (m a) := by
  obtain ⟨r, hr, -⟩ := means_atomMarks m ho (.lists β) fun b => [b]
  refine ⟨r, hr, fun k leaf => ?_⟩
  obtain ⟨s, hs, hmeaning⟩ := means_atomMarks m ho k leaf
  rw [hr.unique hs, hmeaning]

end Outline

namespace Condition

/-- Every leaf is a predicate on columns that are paths of one or more identifiers. -/
def IsPlain (c : Condition) : Prop :=
  ∀ x ∈ c.leaves, x.predicate?.isSome

instance (c : Condition) : Decidable c.IsPlain :=
  inferInstanceAs (Decidable (∀ x ∈ c.leaves, x.predicate?.isSome))

/-- The truth value of a leaf, where membership in an empty list has its own. -/
def truth : Condition → Truth → Truth
  | member _ [] negated, _ => .ofBool negated
  | _, t => t

/-- The truth value under truth values for the leaves from left to right. -/
def evaluate (c : Condition) (σ : List Truth) : Option Truth :=
  (c.fold Valuation.connectives fun x => .single x.truth).map fun v => v.value σ

/-! ### What plain leaves are -/

section Leaf

variable {x : Condition} {p : Predicate}

theorem isVoid_of_predicate (h : x.predicate? = some p) : x.fragment.isVoid = false := by
  refine isVoid_of_isLeaf ?_ ?_
  · cases x <;> first | rfl | contradiction
  · cases x <;> first | rfl | contradiction

theorem isEmpty_of_predicate (h : x.predicate? = some p) : x.isEmpty = false := by
  cases x <;> first | rfl | contradiction

theorem truth_of_predicate (h : x.predicate? = some p) : p.truth = x.truth := by
  cases x with
  | member column values negated =>
    cases values with
    | nil =>
      cases h
      rfl
    | cons v vs =>
      obtain ⟨q, -, rfl⟩ := Option.map_eq_some_iff.mp h
      rfl
  | compareColumns left op right =>
    obtain ⟨q, -, hright⟩ := Option.bind_eq_some_iff.mp h
    obtain ⟨r, -, rfl⟩ := Option.map_eq_some_iff.mp hright
    rfl
  | compare | missing | between =>
    obtain ⟨q, -, rfl⟩ := Option.map_eq_some_iff.mp h
    rfl
  | _ => contradiction

end Leaf

theorem isEmpty_iff_leaves {c : Condition} (h : ∀ x ∈ c.leaves, x.isEmpty = false) :
    c.isEmpty ↔ c.leaves = [] := by
  rw [isEmpty_iff.1]
  constructor
  · intro hempty
    refine List.eq_nil_iff_forall_not_mem.mpr fun x hx => ?_
    have := hempty x hx
    rw [h x hx] at this
    contradiction
  · intro hnil
    simp [hnil]

/-- The predicate of a leaf that writes one. -/
def predicate (x : Condition) : Predicate :=
  x.predicate?.getD (.constant false)

theorem predicate_eq {x : Condition} (h : x.predicate?.isSome) :
    x.predicate? = some x.predicate := by
  obtain ⟨p, hp⟩ := Option.isSome_iff_exists.mp h
  simp [predicate, hp]

end Condition

/-! ### Texts of outlines -/

namespace Outline

open Fragment

variable {o : Outline Condition}

theorem lexemes_fragment (h : ∀ x ∈ o.leaves, x.predicate?.isSome) :
    o.fragment.lexemes = (o.atomMarks Condition.predicate).flatMap Mark.lexemes := by
  induction o with
  | leaf x =>
    have hx := Condition.predicate_eq (h x (by simp [leaves]))
    simpa [fragment, atomMarks, marks, Mark.lexemes] using Condition.lexemes_leaf hx
  | negated part ih =>
    have hpart := ih h
    simp only [fragment, atomMarks, marks, List.flatMap_cons, List.flatMap_append, lexemes,
      List.cons_append] at hpart ⊢
    rw [hpart]
    rfl
  | enclosed part ih =>
    have hpart := ih h
    simp only [fragment, atomMarks, marks, List.flatMap_cons, List.flatMap_append, lexemes,
      List.cons_append] at hpart ⊢
    rw [hpart]
    rfl
  | joined j left right ihl ihr =>
    simp only [leaves, List.forall_mem_append] at h
    have hleft := ihl h.1
    have hright := ihr h.2
    simp only [fragment, atomMarks, marks, List.flatMap_cons, List.flatMap_append,
      lexemes] at hleft hright ⊢
    rw [hleft, hright]
    cases j <;> rfl

theorem spelled_fragment {d : Dialect} {first close : Char} (hd : d.Legible first close)
    (h : ∀ x ∈ o.leaves, x.predicate?.isSome) : Spelled d o.fragment isBehindCondition := by
  have hclosed : Spelled d [.text ")"] fun _ => true :=
    spelled_idle hd [.closed] ⟨rfl, rfl⟩ (by decide)
  have hends : ∀ f : Fragment, Spelled d f isBehindCondition →
      Spelled d (f ++ [.text ")"]) fun _ => true :=
    fun f hf => hf.append hclosed (starts_text [] rfl rfl)
  induction o with
  | leaf x => exact Condition.spelled_leaf hd (Condition.predicate_eq (h x (by simp [leaves])))
  | negated part ih =>
    have hnot : Spelled d [.text "NOT ("] fun _ => true :=
      spelled_idle hd [.keyword .not, .opened] ⟨rfl, rfl⟩ (by decide)
    exact (hnot.append_any (hends _ (ih h))).mono fun _ _ => rfl
  | enclosed part ih =>
    have hopened : Spelled d [.text "("] fun _ => true :=
      spelled_idle hd [.opened] ⟨rfl, rfl⟩ (by decide)
    exact (hopened.append_any (hends _ (ih h))).mono fun _ _ => rfl
  | joined j left right ihl ihr =>
    simp only [leaves, List.forall_mem_append] at h
    have hjunction : Spelled d [.text j.separator] fun _ => true := by
      cases j
      · exact spelled_idle hd [.keyword .and] ⟨rfl, rfl⟩ (by decide)
      · exact spelled_idle hd [.keyword .or] ⟨rfl, rfl⟩ (by decide)
    have hstarts : Starts d [.text j.separator] isBehindCondition := by
      cases j <;> exact starts_text [] rfl rfl
    have hall := ((ihl h.1).append hjunction hstarts).append_any (ihr h.2)
    rwa [List.append_assoc] at hall

end Outline

namespace Condition

/-- A condition made of predicates has no text exactly if it is made of groups without parts and
their contraries. Any other has one reading: the reading has the predicates of the condition in
their order and the truth value of the condition under all truth values. It is read from the lexemes
of the condition, and those are the lexemes of the text in every legible dialect. Legible are the
dialects of the library that quote identifiers, and a dialect that leaves all to the standard. -/
theorem plain_conditions_read_back :
    (∀ d ∈ Dialect.builtins, d.quotes.isSome → ∃ first close, d.Legible first close) ∧
    (∀ name, Dialect.Legible { name } '"' '"') ∧
    ∀ c : Condition, c.IsPlain →
      (c.isEmpty ↔ c.fragment = []) ∧
      (¬c.isEmpty → ∃ r : Formula Predicate,
        (∀ s : Formula Predicate, s.Reads c.fragment.lexemes ↔ s = r) ∧
        r.atoms.map some = c.leaves.map predicate? ∧
        (∀ σ, some (r.evaluate Predicate.truth σ) = c.evaluate σ) ∧
        ∀ d first close, Dialect.Legible d first close → ∀ bound,
          c.fragment.render d bound ≠ "" ∧
            d.lexer.lex (c.fragment.render d bound).toList = some c.fragment.lexemes) := by
  refine ⟨fun d => Dialect.legible_of_mem_builtins, Dialect.legible_of_standard, fun c hc => ?_⟩
  have hpredicate : ∀ x ∈ c.leaves, x.predicate? = some x.predicate :=
    fun x hx => predicate_eq (hc x hx)
  have hfragment := fragment_eq_outline fun x hx => isVoid_of_predicate (hpredicate x hx)
  have hempty := isEmpty_iff_leaves (c := c) fun x hx => isEmpty_of_predicate (hpredicate x hx)
  cases ho : c.outline? with
  | none =>
    have hnone := hempty.mpr (outline_eq_none_iff.mp ho)
    exact ⟨by simp [hnone, hfragment, ho], fun h => absurd hnone h⟩
  | some o =>
    have hleaves := leaves_outline ho
    have hplain : ∀ x ∈ o.leaves, x.predicate?.isSome := fun x hx => hc x (hleaves ▸ hx)
    have htext : c.fragment.lexemes = (o.atomMarks predicate).flatMap Mark.lexemes := by
      rw [hfragment, ho]
      exact Outline.lexemes_fragment hplain
    obtain ⟨r, hparses, hfold⟩ := Outline.exists_formula predicate (tidy_outline ho).2
    have hr : r.Reads c.fragment.lexemes := ⟨_, htext.symm, hparses⟩
    have hnonempty : ¬c.isEmpty := fun h => o.leaves_ne_nil (hleaves.trans (hempty.mp h))
    refine ⟨⟨fun h => absurd h hnonempty, fun h => ?_⟩, fun _ => ⟨r, fun s => ?_, ?_, fun σ => ?_,
      fun d first close hd bound => ?_⟩⟩
    · exact absurd (congrArg Fragment.lexemes h) hr.ne_nil
    · exact ⟨fun hs => hs.unique hr, fun hs => hs ▸ hr⟩
    · rw [Formula.atoms, hfold, Outline.meaning_lists, hleaves, List.map_map]
      exact List.map_congr_left fun x hx => (hpredicate x hx).symm
    · have hcongr : o.meaning Valuation.connectives (fun x => .single x.predicate.truth) =
          o.meaning Valuation.connectives fun x => .single x.truth := by
        refine Outline.meaning_congr _ fun x hx => ?_
        rw [truth_of_predicate (hpredicate x (hleaves ▸ hx))]
      rw [Formula.evaluate, hfold, hcongr, evaluate, ← meaning_outline, ho]
      rfl
    · have hspelled : Fragment.Spelled d c.fragment Fragment.isBehindCondition := by
        rw [hfragment, ho]
        exact Outline.spelled_fragment hd hplain
      refine ⟨fun h => hr.ne_nil ?_, hspelled.lex bound⟩
      have hlex := hspelled.lex bound
      rw [h] at hlex
      exact (Option.some.inj hlex).symm

/-- A spliced group, a vanishing group, a range under a contrary and an empty list. -/
theorem plain_conditions_read_back_nested :
    let c : Condition := .group .and [.equals (.named "a") (.int 1), .group .or [],
      .group .and [.group .or [.compare (.named "b") .gt (.int 2),
        .negation (.between (.parse "t.c") (.int 3) (.int 4) false)]],
      .member (.named "d") [] true]
    c.IsPlain ∧ ¬c.isEmpty ∧ ∃ r : Formula Predicate,
      (∀ s : Formula Predicate, s.Reads c.fragment.lexemes ↔ s = r) ∧
      r.evaluate Predicate.truth [.yes, .unknown, .no, .no] = .yes ∧
      Dialect.postgres.lexer.lex (c.fragment.render .postgres 0).toList =
        some c.fragment.lexemes := by
  intro c
  have hplain : c.IsPlain := by decide
  have hnonempty : ¬c.isEmpty := by decide
  obtain ⟨hbuiltins, -, hread⟩ := plain_conditions_read_back
  obtain ⟨r, hr, -, heval, hlegible⟩ := (hread c hplain).2 hnonempty
  obtain ⟨first, close, hd⟩ := hbuiltins .postgres (by simp [Dialect.builtins]) rfl
  exact ⟨hplain, hnonempty, r, hr, Option.some.inj ((heval _).trans rfl),
    (hlegible .postgres first close hd 0).2⟩

end Condition

end QueryKit
