import QueryKit.Proofs.Admission
import QueryKit.Proofs.Blank
import QueryKit.Proofs.Reading.Remains

/-! Conditions that write nothing. An empty condition writes nothing, and what is written is blank
only if nothing remains of the condition or if a template with a blank text remains alone. Such a
template is not taken for empty, nor is one with an empty text: these are the conditions whose text
is blank although they are not empty, and the only ones that leave a blank behind a keyword, a
junction or a parenthesis. -/

namespace QueryKit

open Text (allBlank)

variable {d : Dialect}

/-- A junction and a pair of parentheses are not blank, whatever stands in them. -/
theorem Outline.inked_of_leaf {o : Outline Condition}
    (h : ∀ x, o = leaf x → x.fragment.Inked d) : o.fragment.Inked d := by
  cases o with
  | leaf x => exact h x rfl
  | negated part =>
    exact Fragment.inked_of_text (s := "NOT (") (by simp [fragment]) (by decide)
  | enclosed part => exact Fragment.inked_of_text (s := "(") (by simp [fragment]) (by decide)
  | joined j left right =>
    exact Fragment.inked_of_text (s := j.separator) (by simp [fragment]) (by cases j <;> decide)

namespace Condition

variable {c x : Condition} {o : Outline Condition}

def IsBlankTemplate (x : Condition) : Prop :=
  ∃ text values, x = template text values ∧ allBlank text

/-- What the condition writes is blank although the condition is not empty: it has a template
without any text and nothing remains of it, or nothing but a template with a blank text. -/
inductive IsHollow (c : Condition) : Prop
  | nothing (values : List Value) (none : c.remains = none) (mem : template "" values ∈ c.leaves)
  | blank (text : String) (values : List Value)
      (only : c.remains = some (.leaf (template text values))) (blank : allBlank text)

theorem isHollow_iff_of_none (h : c.remains = none) :
    c.IsHollow ↔ ∃ values, template "" values ∈ c.leaves := by
  constructor
  · rintro (⟨values, -, hmem⟩ | ⟨text, values, honly, -⟩)
    · exact ⟨values, hmem⟩
    · rw [h] at honly
      contradiction
  · rintro ⟨values, hmem⟩
    exact .nothing values h hmem

theorem isHollow_iff_of_some (h : c.remains = some o) :
    c.IsHollow ↔ ∃ x, o = .leaf x ∧ x.IsBlankTemplate := by
  constructor
  · rintro (⟨values, hnone, -⟩ | ⟨text, values, honly, hblank⟩)
    · rw [h] at hnone
      contradiction
    · exact ⟨_, Option.some.inj (h.symm.trans honly), text, values, rfl, hblank⟩
  · rintro ⟨_, rfl, text, values, rfl, hblank⟩
    exact .blank text values h hblank

theorem fragment_of_blank_template {text : String} {values : List Value}
    (hcheck : (template text values).check = .ok ()) (hblank : allBlank text) :
    (template text values).fragment = [.text text] := by
  have hcount := checkTemplate_ok_iff.mp hcheck
  obtain rfl := values_eq_nil_of_allBlank hcount hblank
  exact fragment_template_nil hcount

theorem isVoid_iff_of_isLeaf (hleaf : x.isLeaf) (hcheck : x.check = .ok ()) :
    x.fragment.isVoid ↔ x.isEmpty ∨ ∃ values, x = template "" values := by
  cases x with
  | group | negation => contradiction
  | verbatim text =>
    simp [fragment, piece, Piece.close, Fragment.isVoid, Token.isVoid, isEmpty,
      Text.trim_eq_empty_iff]
  | template text values =>
    have hcount := checkTemplate_ok_iff.mp hcheck
    cases values with
    | nil => simp [fragment_template_nil hcount, Fragment.isVoid, Token.isVoid, isEmpty]
    | cons v vs =>
      have hmem := operand_mem_template hcount
      have hvoid : (template text (v :: vs)).fragment.isVoid = false := by
        rw [← Bool.not_eq_true, Fragment.isVoid, List.all_eq_true]
        exact fun h => absurd (h _ hmem) (by simp [Token.isVoid])
      have hne : text ≠ "" := by
        rintro rfl
        simp at hcount
      simp [hvoid, hne, isEmpty]
  | _ =>
    have hwritten := isVoid_of_isLeaf hleaf rfl
    simp [hwritten, isEmpty]

section Checked

variable (hcheck : c.check = .ok ())

include hcheck

theorem check_of_mem_leaves (hx : x ∈ c.leaves) : x.check = .ok () :=
  check_ok_iff_leaves.1 c |>.mp hcheck x hx

theorem isVoid_iff_of_mem_leaves (hx : x ∈ c.leaves) :
    x.fragment.isVoid ↔ x.isEmpty ∨ ∃ values, x = template "" values :=
  isVoid_iff_of_isLeaf (isLeaf_of_mem_leaves.1 c x hx) (check_of_mem_leaves hcheck hx)

theorem inked_of_mem_parts (hd : d.Inked) (h : c.remains = some o) {p : Outline Condition}
    (hp : p ∈ o.parts) (hleaf : ∀ x, p = .leaf x → ¬x.IsBlankTemplate) : p.fragment.Inked d := by
  refine Outline.inked_of_leaf ?_
  rintro x rfl
  have hmem := Outline.leaves_subset_of_mem_parts hp (List.mem_singleton_self x)
  obtain ⟨hx, hvoid⟩ := (mem_leaves_remains_iff h).mp hmem
  refine inked_of_isLeaf hd (isLeaf_of_mem_leaves.1 c x hx) (check_of_mem_leaves hcheck hx) hvoid ?_
  rintro text values rfl
  rw [← Bool.not_eq_true]
  exact fun hblank => hleaf _ rfl ⟨text, values, rfl, hblank⟩

theorem remains_eq_none_of_isEmpty (h : c.isEmpty) : c.remains = none := by
  refine remains_eq_none_iff.mpr fun x hx => (isVoid_iff_of_mem_leaves hcheck hx).mpr (.inl ?_)
  exact (isEmpty_iff.1 c).mp h x hx

theorem isEmpty_iff_of_remains (h : c.remains = none) :
    c.isEmpty ↔ ¬∃ values, template "" values ∈ c.leaves := by
  rw [isEmpty_iff.1]
  constructor
  · rintro hempty ⟨values, hmem⟩
    have := hempty _ hmem
    contradiction
  · intro hnone x hx
    have hvoid := remains_eq_none_iff.mp h x hx
    rcases (isVoid_iff_of_mem_leaves hcheck hx).mp hvoid with hempty | ⟨values, rfl⟩
    · exact hempty
    · exact absurd ⟨values, hx⟩ hnone

theorem fragment_of_blank_remains {text : String} {values : List Value}
    (h : c.remains = some (.leaf (template text values))) (hblank : allBlank text) :
    c.fragment = [.text text] := by
  have hx := ((mem_leaves_remains_iff h).mp (List.mem_singleton_self _)).1
  rw [fragment_of_remains h, Outline.fragment,
    fragment_of_blank_template (check_of_mem_leaves hcheck hx) hblank]

/-- What a condition writes is blank exactly if nothing remains of it, or a template with a blank
text alone. -/
theorem allBlank_iff (hd : d.Inked) (bound : Nat) :
    allBlank (c.fragment.render d bound) ↔
      ∀ o ∈ c.remains, ∃ x, o = .leaf x ∧ x.IsBlankTemplate := by
  cases h : c.remains with
  | none => simp [Fragment.render_of_isVoid (isVoid_of_remains h), allBlank]
  | some o =>
    constructor
    · rintro hblank _ ⟨⟩
      by_contra hleaf
      have hink := inked_of_mem_parts hcheck hd h o.self_mem_parts fun x ho hx => hleaf ⟨x, ho, hx⟩
      rw [fragment_of_remains h, hink.allBlank_render bound] at hblank
      contradiction
    · intro hleaf
      obtain ⟨_, rfl, text, values, rfl, hblank⟩ := hleaf o rfl
      rw [fragment_of_blank_remains hcheck h hblank]
      simpa [Fragment.render, Token.render] using hblank

theorem operands_of_allBlank (hd : d.Inked) {bound : Nat}
    (hblank : allBlank (c.fragment.render d bound)) : c.fragment.operands d = [] := by
  cases h : c.remains with
  | none => exact Fragment.operands_of_isVoid (isVoid_of_remains h)
  | some o =>
    obtain ⟨_, rfl, text, values, rfl, htext⟩ := (allBlank_iff hcheck hd bound).mp hblank o h
    rw [fragment_of_blank_remains hcheck h htext]
    rfl

/-- Only a hollow condition has a blank text without being empty. -/
theorem isEmpty_iff_allBlank_iff (hd : d.Inked) (bound : Nat) :
    (c.isEmpty ↔ allBlank (c.fragment.render d bound)) ↔ ¬c.IsHollow := by
  rw [allBlank_iff hcheck hd]
  cases h : c.remains with
  | none =>
    -- The text is empty, and only a template without any text keeps the condition from being so.
    rw [isEmpty_iff_of_remains hcheck h, isHollow_iff_of_none h]
    simp
  | some o =>
    have hempty : ¬c.isEmpty := by
      intro hempty
      rw [remains_eq_none_of_isEmpty hcheck hempty] at h
      contradiction
    rw [isHollow_iff_of_some h]
    simp [hempty]

/-- No part of what remains is blank exactly if every template with a blank text has no text. -/
theorem parts_are_inked_iff (hd : d.Inked) :
    (∀ o ∈ c.remains, ∀ p ∈ o.parts, ∀ bound, allBlank (p.fragment.render d bound) = false) ↔
      ∀ text values, template text values ∈ c.leaves → allBlank text → text = "" := by
  constructor
  · intro hparts text values hx hblank
    by_contra hne
    have hfragment := fragment_of_blank_template (check_of_mem_leaves hcheck hx) hblank
    have hvoid : (template text values).fragment.isVoid = false := by
      simp [hfragment, Fragment.isVoid, Token.isVoid, hne]
    cases h : c.remains with
    | none =>
      have := remains_eq_none_iff.mp h _ hx
      rw [hvoid] at this
      contradiction
    | some o =>
      have hleaf := Outline.leaf_mem_parts ((mem_leaves_remains_iff h).mpr ⟨hx, hvoid⟩)
      have hink := hparts o h _ hleaf 0
      rw [Outline.fragment, hfragment] at hink
      have htext : Fragment.render d 0 [.text text] = text := String.append_empty
      rw [htext, hblank] at hink
      contradiction
  · intro htemplates o h p hp bound
    refine (inked_of_mem_parts hcheck hd h hp ?_).allBlank_render bound
    rintro _ rfl ⟨text, values, rfl, hblank⟩
    have hmem := Outline.leaves_subset_of_mem_parts hp (List.mem_singleton_self _)
    obtain ⟨hx, hvoid⟩ := (mem_leaves_remains_iff h).mp hmem
    obtain rfl := htemplates text values hx hblank
    rw [fragment_of_blank_template (check_of_mem_leaves hcheck hx) hblank] at hvoid
    contradiction

end Checked

end Condition

/-! ### Statements -/

namespace Assembler

/-- The keywords of the statement and the conditions behind each of them. -/
def clauses : Assembler → List (String × List Condition)
  | select q => q.joins.map (fun j => (" ON ", j.conditions)) ++
      [(" WHERE ", q.conditions), (" HAVING ", q.groupConditions)]
  | insert _ => []
  | update q => q.joins.map (fun j => (" ON ", j.conditions)) ++ [(" WHERE ", q.conditions)]
  | delete q => q.joins.map (fun j => (" ON ", j.conditions)) ++ [(" WHERE ", q.conditions)]

/-- The drafts that a statement is built from, by itself or to count its rows. -/
inductive Drafts : Assembler → Draft → Prop
  | build (a : Assembler) : a.Drafts a.draft
  | count (q : Select) : (select q).Drafts q.countDraft

variable {a : Assembler} {D : Draft} {s : Statement} {k : String × List Condition}

theorem infix_joins {js : List Join} (hk : k ∈ js.map fun j => (" ON ", j.conditions)) :
    Fragment.clause k.1 (Condition.fragmentAll k.2) <:+: js.flatMap Join.fragment := by
  obtain ⟨j, hj, rfl⟩ := List.mem_map.mp hk
  have hjoin : j.fragment <:+: js.flatMap Join.fragment :=
    List.infix_of_mem_flatten (List.mem_map_of_mem hj)
  exact List.infix_append_right.trans hjoin

theorem infix_source {q : Select} (hk : k ∈ (select q).clauses) :
    Fragment.clause k.1 (Condition.fragmentAll k.2) <:+: q.sourceFragment := by
  rcases List.mem_append.mp hk with hk | hk
  · have := infix_joins hk
    grind [Select.sourceFragment]
  · simp only [List.mem_cons, List.not_mem_nil, or_false] at hk
    rcases hk with rfl | rfl
    · grind [Select.sourceFragment]
    · exact List.infix_append_right

theorem infix_draft (hD : a.Drafts D) (hk : k ∈ a.clauses) :
    Fragment.clause k.1 (Condition.fragmentAll k.2) <:+: D.fragment := by
  cases hD with
  | count q =>
    refine (infix_source hk).trans ?_
    show q.sourceFragment <:+: q.countDraft.body ++ []
    simp only [Select.countDraft]
    split
    · grind
    · exact ((List.infix_cons List.infix_rfl).trans List.infix_append_left).trans
        List.infix_append_left
  | build a =>
    cases a with
    | insert q => contradiction
    | select q =>
      refine (infix_source hk).trans ?_
      show q.sourceFragment <:+: q.draft.body ++ []
      simp only [Select.draft]
      grind
    | update q =>
      show _ <:+: q.body ++ _
      rcases List.mem_append.mp hk with hk | hk
      · have := infix_joins hk
        grind [Update.body]
      · rw [List.mem_singleton.mp hk]
        grind [Update.body]
    | delete q =>
      show _ <:+: q.body ++ _
      rcases List.mem_append.mp hk with hk | hk
      · have := infix_joins hk
        grind [Delete.body]
      · rw [List.mem_singleton.mp hk]
        grind [Delete.body]

theorem flatMap_clauses_select (q : Select) : (select q).clauses.flatMap Prod.snd = q.trees := by
  simp [clauses, Select.trees, List.flatMap_map]

theorem flatMap_clauses_update (q : Update) : (update q).clauses.flatMap Prod.snd = q.trees := by
  simp [clauses, Update.trees, List.flatMap_map]

theorem flatMap_clauses_delete (q : Delete) : (delete q).clauses.flatMap Prod.snd = q.trees := by
  simp [clauses, Delete.trees, List.flatMap_map]

theorem sound_of_build (hD : a.Drafts D) (hs : D.build = .ok s) :
    ∀ c ∈ a.clauses.flatMap Prod.snd, c.IsSound := by
  cases hD with
  | count q =>
    have hadmission : q.checkCount = .ok () := (Draft.build_ok_iff.mp hs).1
    rw [flatMap_clauses_select]
    exact Select.checkConditions_ok_iff_isSound.mp (Select.checkCount_ok_iff.mp hadmission).2
  | build a =>
    cases a with
    | insert q => exact List.forall_mem_nil _
    | select q =>
      rw [flatMap_clauses_select]
      exact (Select.exists_build_iff.mp ⟨s, hs⟩).trees
    | update q =>
      rw [flatMap_clauses_update]
      exact (Update.exists_build_iff.mp ⟨s, hs⟩).trees
    | delete q =>
      rw [flatMap_clauses_delete]
      exact (Delete.exists_build_iff.mp ⟨s, hs⟩).trees

theorem check_of_build (hD : a.Drafts D) (hs : D.build = .ok s) (hk : k ∈ a.clauses) :
    (Condition.group .and k.2).check = .ok () :=
  Condition.checkAll_ok_iff_isSound.mpr (List.forall_mem_flatMap.mp (sound_of_build hD hs) k hk)

end Assembler

/-- An empty condition writes nothing, a blank text binds nothing, and the two go together exactly
unless the condition is hollow. Behind every keyword of a statement that is built stands what remains
of its conditions, if anything does, and no part of that is blank exactly if no template in the
statement has a text of nothing but blanks. -/
theorem blank_conditions_are_empty_iff (d : Dialect) (hd : d.Inked) :
    (∀ d' ∈ Dialect.builtins, d'.Inked) ∧
    (∀ (c : Condition) (bound : Nat), c.check = .ok () →
      (c.isEmpty → c.fragment.render d bound = "") ∧
      (allBlank (c.fragment.render d bound) → c.fragment.operands d = []) ∧
      ((c.isEmpty ↔ allBlank (c.fragment.render d bound)) ↔ ¬c.IsHollow)) ∧
    ∀ (a : Assembler) (D : Draft) (s : Statement), a.Drafts D → D.dialect = d → D.build = .ok s →
      s = .ofFragment d D.fragment ∧
      (∀ k ∈ a.clauses,
        Fragment.clause k.1 (Condition.fragmentAll k.2) <:+: D.fragment ∧
        Fragment.clause k.1 (Condition.fragmentAll k.2) =
          (((Condition.group .and k.2).remains.map fun o => .text k.1 :: o.fragment).getD [] :
            Fragment)) ∧
      ((∀ k ∈ a.clauses, ∀ o ∈ (Condition.group .and k.2).remains, ∀ p ∈ o.parts, ∀ bound,
          allBlank (p.fragment.render d bound) = false) ↔
        ∀ k ∈ a.clauses, ∀ text values, .template text values ∈ Condition.allLeaves k.2 →
          allBlank text → text = "") := by
  refine ⟨fun _ => Dialect.inked_of_mem_builtins, ?_, ?_⟩
  · intro c bound hcheck
    refine ⟨fun hempty => ?_, Condition.operands_of_allBlank hcheck hd,
      Condition.isEmpty_iff_allBlank_iff hcheck hd bound⟩
    have hnone := Condition.remains_eq_none_of_isEmpty hcheck hempty
    exact Fragment.render_of_isVoid (Condition.isVoid_of_remains hnone)
  · rintro a D s hD rfl hs
    refine ⟨(Draft.build_ok_iff.mp hs).2.2, fun k hk => ?_, forall₂_congr fun k hk => ?_⟩
    · exact ⟨Assembler.infix_draft hD hk, Condition.clause_fragmentAll k.1 k.2⟩
    · exact Condition.parts_are_inked_iff (Assembler.check_of_build hD hs hk) hd

/-- A column compared next to an empty template and an empty contrary, in a count of rows. -/
theorem blank_conditions_are_empty_iff_nested :
    let c := Condition.group .and
      [.equals (.named "a") (.int 1), .template "" [], .negation (.group .or [.verbatim " "])]
    let q := (({} : Select).table (.parse "t")).filter c
    (c.isEmpty ↔ allBlank (c.fragment.render .postgres 2)) ∧
      ∀ k ∈ (Assembler.select q).clauses, ∀ o ∈ (Condition.group .and k.2).remains, ∀ p ∈ o.parts,
        ∀ bound, allBlank (p.fragment.render .generic bound) = false := by
  intro c q
  have hgeneric : Dialect.generic.Inked := Dialect.inked_of_mem_builtins List.mem_cons_self
  have hpostgres : Dialect.postgres.Inked :=
    Dialect.inked_of_mem_builtins (by simp [Dialect.builtins])
  have hcheck : c.check = .ok () := rfl
  have honly : c.remains = some (.leaf (.equals (.named "a") (.int 1))) := rfl
  have hsolid : ¬c.IsHollow := by
    rw [Condition.isHollow_iff_of_some honly]
    rintro ⟨_, ⟨⟩, text, values, hx, -⟩
    contradiction
  have hbuild : q.countDraft.build = .ok (.ofFragment .generic q.countDraft.fragment) := rfl
  obtain ⟨-, htrees, -⟩ := blank_conditions_are_empty_iff .postgres hpostgres
  obtain ⟨-, -, hstatements⟩ := blank_conditions_are_empty_iff .generic hgeneric
  refine ⟨(htrees c 2 hcheck).2.2.mpr hsolid, ?_⟩
  refine (hstatements _ _ _ (.count q) rfl hbuild).2.2.mpr ?_
  intro k hk text values hmem _
  have hwhere : k = (" WHERE ", [c]) ∨ k = (" HAVING ", []) := by
    simpa [q, Assembler.clauses, Select.table, Select.filter] using hk
  rcases hwhere with rfl | rfl
  · have hleaf : text = "" ∧ values = [] := by
      simpa [c, Condition.allLeaves, Condition.leaves, Condition.equals] using hmem
    exact hleaf.1
  · contradiction

/-- A template without any text is not empty, nor is one with a blank text, and a statement with the
latter ends in its keyword. -/
theorem blank_templates_are_not_empty :
    let q := (({} : Select).table (.parse "t")).columns [.named "a"]
    (∀ text ∈ ["", " "], (Condition.template text []).check = .ok () ∧
      ¬((Condition.template text []).isEmpty ↔
        allBlank ((Condition.template text []).fragment.render .postgres 0))) ∧
      (q.filter (.template " " [])).build = .ok ⟨"SELECT a FROM t WHERE  ", [], .generic⟩ := by
  refine ⟨?_, rfl⟩
  decide

end QueryKit
