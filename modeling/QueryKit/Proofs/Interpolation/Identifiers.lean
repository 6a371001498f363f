import QueryKit.Proofs.Emptiness
import QueryKit.Proofs.Interpolation.Stretches
import QueryKit.Proofs.Operand.Statement

/-! Statements of identifiers and bound values. All their texts are fixed, so that interpolation
depends on nothing but the identifiers: it does what it should exactly if, in front of every
placeholder, the identifiers leave no apostrophe open and do not have that placeholder in them. -/

namespace QueryKit

open Text (isFixed isLink)

/-! ### Plain fragments put together -/

namespace Fragment

variable {f g : Fragment} {fs : List Fragment} {s : String}

theorem opens_append (hf : opens f) (hg : opens g) : opens (f ++ g) := by
  induction f with
  | nil => exact hg
  | cons t f ih =>
    cases t with
    | window limit offset => exact ih hf
    | _ => exact hf

theorem IsPlain.append (hf : f.IsPlain) (hg : g.IsClause) : IsPlain (f ++ g) := by
  induction f with
  | nil => exact hg.plain
  | cons t f ih =>
    obtain ⟨ht, hbinds, hf⟩ := hf
    exact ⟨ht, fun h => opens_append (hbinds h) hg.opens, ih hf⟩

theorem IsClause.append (hf : f.IsClause) (hg : g.IsClause) : IsClause (f ++ g) :=
  ⟨hf.plain.append hg, opens_append hf.opens hg.opens⟩

theorem isClause_nil : IsClause [] :=
  ⟨trivial, rfl⟩

theorem IsPlain.behind_unbound {t : Token} (hf : f.IsPlain) (ht : t.isFixed)
    (hbinds : t.binds = false) : IsPlain (t :: f) := by
  refine ⟨ht, fun h => ?_, hf⟩
  rw [hbinds] at h
  contradiction

theorem IsPlain.behind_text (hf : f.IsPlain) (hs : isLink s) : IsClause (.text s :: f) :=
  ⟨hf.behind_unbound (Bool.and_eq_true_iff.mp hs).1 rfl, hs⟩

theorem IsPlain.behind_name (hf : f.IsPlain) (s : String) : IsClause (.name s :: f) :=
  ⟨hf.behind_unbound rfl rfl, rfl⟩

theorem isClause_window (limit offset : Option UInt64) : IsClause [.window limit offset] :=
  ⟨isClause_nil.plain.behind_unbound rfl rfl, rfl⟩

theorem isClause_text (hs : isLink s) : IsClause [.text s] :=
  isClause_nil.plain.behind_text hs

theorem isPlain_operand (v : Value) : IsPlain [.operand v] :=
  ⟨rfl, fun _ => rfl, trivial⟩

theorem isClause_ite {p : Prop} [Decidable p] (hf : f.IsClause) (hg : g.IsClause) :
    IsClause (if p then f else g) := by
  split
  · exact hf
  · exact hg

theorem isClause_flatMap {α : Type} {xs : List α} {g : α → Fragment}
    (h : ∀ x ∈ xs, (g x).IsClause) : IsClause (xs.flatMap g) := by
  induction xs with
  | nil => exact isClause_nil
  | cons x xs ih =>
    obtain ⟨hx, hxs⟩ := List.forall_mem_cons.mp h
    exact hx.append (ih hxs)

theorem isPlain_separated (hs : isLink s) (h : ∀ f ∈ fs, f.IsPlain) :
    (separated s fs).IsPlain := by
  induction fs with
  | nil => trivial
  | cons f fs ih =>
    obtain ⟨hf, hfs⟩ := List.forall_mem_cons.mp h
    cases fs with
    | nil => simpa [separated] using hf
    | cons g gs =>
      have hrest := ih hfs
      simp only [separated, List.intercalate_cons_cons, List.append_assoc] at hrest ⊢
      exact hf.append (hrest.behind_text hs)

theorem isPlain_separated_map {α : Type} {xs : List α} {g : α → Fragment} (hs : isLink s)
    (h : ∀ x ∈ xs, (g x).IsPlain) : (separated s (xs.map g)).IsPlain :=
  isPlain_separated hs (List.forall_mem_map.mpr h)

theorem IsPlain.clause (hf : f.IsPlain) (hs : isLink s) : (Fragment.clause s f).IsClause := by
  unfold Fragment.clause
  split
  · exact isClause_nil
  · exact hf.behind_text hs

theorem isPlain_grouped (junction : Junction) (h : ∀ f ∈ fs, f.IsPlain) :
    (grouped junction fs).IsPlain := by
  have hkept : ∀ f ∈ fs.filter (fun f => !f.isVoid), f.IsPlain :=
    fun f hf => h f (List.mem_of_mem_filter hf)
  have hseparator : isLink junction.separator := by cases junction <;> decide
  unfold grouped
  split
  · trivial
  · rename_i part hone
    exact hkept part (by simp [hone])
  · have hparts := (isPlain_separated hseparator hkept).behind_text (s := "(") (by decide)
    exact hparts.plain.append (isClause_text (by decide))

theorem isPlain_negated (hf : f.IsPlain) : (negated f).IsPlain := by
  unfold negated
  split
  · trivial
  · exact (hf.behind_text (by decide)).plain.append (isClause_text (by decide))

end Fragment

/-! ### Columns and conditions -/

namespace Column

def isPath : Column → Bool
  | path _ => true
  | verbatim _ => false

theorem isClause_pathFragment (parts : List String) : Fragment.IsClause (pathFragment parts) := by
  fun_induction pathFragment parts with
  | case1 => exact Fragment.isClause_nil
  | case2 last =>
    split
    · exact Fragment.isClause_text (by decide)
    · exact Fragment.isClause_nil.plain.behind_name last
  | case3 part rest _ ih =>
    exact (ih.plain.behind_text (by decide)).plain.behind_name part

theorem isClause_fragment {c : Column} (hc : c.isPath) : Fragment.IsClause c.fragment := by
  cases c with
  | path parts => exact isClause_pathFragment parts
  | verbatim expression => contradiction

theorem isPlain_listFragment {cs : List Column} (hcs : ∀ c ∈ cs, c.isPath) :
    Fragment.IsPlain (listFragment cs) :=
  Fragment.isPlain_separated_map (by decide) fun c hc => (isClause_fragment (hcs c hc)).plain

end Column

namespace Condition

open Fragment

/-- The condition compares paths of identifiers with values and with each other. -/
def IsPure (c : Condition) : Prop :=
  ∀ x ∈ c.leaves, x.isText = false ∧ ∀ column ∈ x.columns, column.isPath

instance (c : Condition) : Decidable c.IsPure :=
  inferInstanceAs (Decidable (∀ x ∈ c.leaves, x.isText = false ∧ ∀ column ∈ x.columns, column.isPath))

theorem isPlain_leaf {x : Condition} (hleaf : x.isLeaf) (htext : x.isText = false)
    (hcolumns : ∀ column ∈ x.columns, column.isPath) : x.fragment.IsPlain := by
  have hpath : ∀ column ∈ x.columns, Fragment.IsPlain column.fragment :=
    fun column hc => (Column.isClause_fragment (hcolumns column hc)).plain
  cases x with
  | group | negation | verbatim | template => contradiction
  | compare column op v =>
    have hop : isLink op.symbol := by cases op <;> decide
    exact (hpath column (by simp [columns])).append ((isPlain_operand v).behind_text hop)
  | compareColumns left op right =>
    have hop : isLink op.symbol := by cases op <;> decide
    have hright := hpath right (by simp [columns])
    exact (hpath left (by simp [columns])).append (hright.behind_text hop)
  | missing column negated =>
    refine (hpath column (by simp [columns])).append (isClause_text ?_)
    cases negated <;> decide
  | member column values negated =>
    cases values with
    | nil =>
      -- Without values there is no column in the text either.
      cases negated <;> exact isClause_nil.plain.behind_unbound rfl rfl
    | cons v vs =>
      have hlist : isLink (if negated then " NOT IN (" else " IN (") := by
        cases negated <;> decide
      have hvalues : Fragment.IsPlain (ofValues (v :: vs)) :=
        isPlain_separated_map (by decide) fun v _ => isPlain_operand v
      have hhead := (hpath column (by simp [columns])).append (hvalues.behind_text hlist)
      exact hhead.append (isClause_text (by decide))
  | between column low high negated =>
    have hrange : isLink (if negated then " NOT BETWEEN " else " BETWEEN ") := by
      cases negated <;> decide
    have hhigh : IsClause [.text " AND ", .operand high] :=
      (isPlain_operand high).behind_text (by decide)
    have hboth : Fragment.IsPlain [.operand low, .text " AND ", .operand high] :=
      (isPlain_operand low).append hhigh
    exact (hpath column (by simp [columns])).append (hboth.behind_text hrange)

/-- What the leaves have, and what groups and contraries pass on, every condition has. -/
theorem fragment_induction {P : Fragment → Prop}
    (hgrouped : ∀ j fs, (∀ f ∈ fs, P f) → P (grouped j fs)) (hnegated : ∀ f, P f → P (negated f)) :
    (∀ c : Condition, (∀ x ∈ c.leaves, P x.fragment) →
      P c.fragment ∧ ∀ j, ∀ f ∈ c.piece.under j, P f) ∧
    ∀ cs, (∀ x ∈ allLeaves cs, P x.fragment) → ∀ j, ∀ f ∈ pieces j cs, P f := by
  refine tree_induction ?_ ?_ ?_ ?_ ?_
  · -- A leaf is its own only piece.
    intro c hleaf h
    have hc := h c (by rw [leaves_of_isLeaf hleaf]; exact List.mem_singleton_self c)
    refine ⟨hc, fun j => ?_⟩
    cases c with
    | group | negation => contradiction
    | member column values negated =>
      cases values <;> exact List.forall_mem_singleton.mpr hc
    | _ => exact List.forall_mem_singleton.mpr hc
  · -- A group is one piece, or in a group of its own kind it is its parts.
    intro own parts ih h
    have hclosed : P (grouped own (pieces own parts)) := hgrouped own _ (ih h own)
    refine ⟨hclosed, fun j => ?_⟩
    show ∀ f ∈ Piece.under j (.parts own (pieces own parts)), P f
    rw [Piece.under]
    split
    · exact ih h own
    · exact List.forall_mem_singleton.mpr hclosed
  · intro part ih h
    have hclosed := hnegated _ (ih h).1
    exact ⟨hclosed, fun j => List.forall_mem_singleton.mpr hclosed⟩
  · exact fun _ _ => List.forall_mem_nil P
  · intro c cs ihc ihcs h j
    obtain ⟨hc, hcs⟩ := List.forall_mem_append.mp h
    exact List.forall_mem_append.mpr ⟨(ihc hc).2 j, ihcs hcs j⟩

theorem isPlain_fragmentAll {cs : List Condition} (hcs : ∀ c ∈ cs, c.IsPure) :
    (fragmentAll cs).IsPlain := by
  have hleaves : ∀ x ∈ allLeaves cs, x.fragment.IsPlain := by
    induction cs with
    | nil => nofun
    | cons c cs ih =>
      obtain ⟨hc, hcs⟩ := List.forall_mem_cons.mp hcs
      refine List.forall_mem_append.mpr ⟨fun x hx => ?_, ih hcs⟩
      exact isPlain_leaf (isLeaf_of_mem_leaves.1 c x hx) (hc x hx).1 (hc x hx).2
  have hpieces := (fragment_induction (fun j _ => isPlain_grouped j) fun _ => isPlain_negated).2
  exact isPlain_grouped .and (hpieces cs hleaves .and)

end Condition

/-! ### Clauses -/

section Clauses

open Fragment

theorem isPlain_aliased {f : Fragment} (hf : f.IsPlain) (aliasName : Option String) :
    IsPlain (f ++ match aliasName with
      | some aliasName => [.text " AS ", .name aliasName]
      | none => []) := by
  cases aliasName with
  | none => simpa using hf
  | some aliasName =>
    have hname := (isClause_nil.plain.behind_name aliasName).plain
    exact hf.append (hname.behind_text (by decide))

theorem isPlain_table (t : Table) : t.fragment.IsPlain :=
  isPlain_aliased (Column.isClause_pathFragment _).plain t.aliasName

theorem isPlain_tables (ts : Tables) : ts.fragment.IsPlain :=
  isPlain_separated_map (by decide) fun t _ => isPlain_table t

theorem isClause_joins {joins : List Join} (h : ∀ c ∈ joins.flatMap Join.conditions, c.IsPure) :
    IsClause (joins.flatMap Join.fragment) := by
  refine isClause_flatMap fun j hj => ?_
  have hkeyword : isLink (" " ++ j.kind.keyword ++ " ") := by cases j.kind <;> decide
  have hon := Condition.isPlain_fragmentAll (List.forall_mem_flatMap.mp h j hj)
  exact ((isPlain_table j.table).behind_text hkeyword).append (hon.clause (by decide))

theorem isClause_listed {s : String} (hs : isLink s) {columns : List Column}
    (h : ∀ c ∈ columns, c.isPath) :
    IsClause (if columns.isEmpty then [] else .text s :: Column.listFragment columns) :=
  isClause_ite isClause_nil ((Column.isPlain_listFragment h).behind_text hs)

theorem isClause_comment {comment : Option String} (h : comment = none) :
    IsClause (commentFragment comment) := by
  rw [h]
  exact isClause_nil

theorem isClause_returning {columns : List Column} (hcolumns : ∀ c ∈ columns, c.isPath)
    {comment : Option String} (hcomment : comment = none) :
    IsClause ((if columns.isEmpty then [] else .text " RETURNING " :: Column.listFragment columns) ++
      commentFragment comment) :=
  (isClause_listed (by decide) hcolumns).append (isClause_comment hcomment)

end Clauses

/-! ### Statements -/

open Fragment

/-- The statement has no texts of its own: paths of identifiers, bound values and pages only. -/
structure Select.IsPure (q : Select) : Prop where
  selections : ∀ s ∈ q.selections, s.column.isPath
  trees : ∀ c ∈ q.trees, c.IsPure
  grouping : ∀ c ∈ q.grouping, c.isPath
  ordering : ∀ k ∈ q.ordering, k.column.isPath
  paging : ∃ page, q.PagedBy page
  comment : q.comment = none

namespace Select

variable {q : Select}

theorem isPlain_selections (hq : q.IsPure) : q.selectionFragment.IsPlain := by
  have hlist : IsPlain (separated ", " (q.selections.map Selection.fragment)) :=
    isPlain_separated_map (by decide) fun s hs =>
      isPlain_aliased (Column.isClause_fragment (hq.selections s hs)).plain s.aliasName
  rw [selectionFragment]
  split
  · exact (hlist.behind_text (by decide)).plain
  · exact hlist

theorem isClause_source (hq : q.IsPure) : q.sourceFragment.IsClause := by
  obtain ⟨hrest, hgroups⟩ := List.forall_mem_append.mp hq.trees
  obtain ⟨hjoins, hrows⟩ := List.forall_mem_append.mp hrest
  have htables := (isPlain_tables q.tables).behind_text (s := " FROM ") (by decide)
  have hwhere := (Condition.isPlain_fragmentAll hrows).clause (s := " WHERE ") (by decide)
  have hgrouping := isClause_listed (s := " GROUP BY ") (by decide) hq.grouping
  have hhaving := (Condition.isPlain_fragmentAll hgroups).clause (s := " HAVING ") (by decide)
  exact (((htables.append (isClause_joins hjoins)).append hwhere).append hgrouping).append hhaving

theorem isClause_ordering (hq : q.IsPure) : q.orderingFragment.IsClause := by
  refine isClause_ite isClause_nil (IsPlain.behind_text ?_ (by decide))
  refine isPlain_separated_map (by decide) fun k hk => ?_
  have hcolumn := (Column.isClause_fragment (hq.ordering k hk)).plain
  cases hdirection : k.direction with
  | none => simpa [Ordering.Key.fragment, hdirection] using hcolumn
  | some direction =>
    cases direction
    · simpa [Ordering.Key.fragment, hdirection] using
        hcolumn.append (isClause_text (s := " ASC") (by decide))
    · simpa [Ordering.Key.fragment, hdirection] using
        hcolumn.append (isClause_text (s := " DESC") (by decide))

theorem isClause_tail (hq : q.IsPure) : q.tailFragment.IsClause := by
  have hpaging : IsClause (q.paging.getD [.window q.limit q.offset]) := by
    -- A window that is written out has no placeholder, and that of a page has two.
    obtain ⟨page, ⟨hnone⟩ | ⟨p, hsome⟩⟩ := hq.paging
    · rw [hnone]
      exact isClause_window q.limit q.offset
    · rw [hsome]
      exact ⟨⟨rfl, fun _ => rfl, trivial⟩, rfl⟩
  have hlocks : IsClause (if q.locks then [.text " FOR UPDATE"] else []) :=
    isClause_ite (isClause_text (by decide)) isClause_nil
  exact (((isClause_ordering hq).append hpaging).append hlocks).append (isClause_comment hq.comment)

theorem isPlain_draft (hq : q.IsPure) : q.draft.fragment.IsPlain := by
  have hselect := (isPlain_selections hq).behind_text (s := "SELECT ") (by decide)
  have hall := (hselect.append (isClause_source hq)).append (isClause_tail hq)
  exact (hall.append isClause_nil).plain

theorem isPlain_countDraft (hq : q.IsPure) : q.countDraft.fragment.IsPlain := by
  have hsource := isClause_source hq
  have hcomment := isClause_comment hq.comment
  -- This text begins with a digit, but SELECT stands in front of it.
  have hone : IsPlain [.text "1"] := isClause_nil.plain.behind_unbound (by decide) rfl
  have hselected : IsPlain (if q.isDistinct && !q.selections.isEmpty then q.selectionFragment
      else [.text "1"]) := by
    split
    · exact isPlain_selections hq
    · exact hone
  have haround := (hselected.append hsource).behind_text
    (s := "SELECT COUNT(*) FROM (SELECT ") (by decide)
  have hbody := isClause_ite (p := q.countsAround)
    (haround.append (isClause_text (s := ") AS t") (by decide)))
    (hsource.plain.behind_text (s := "SELECT COUNT(*)") (by decide))
  exact ((hbody.append hcomment).append isClause_nil).plain

end Select

/-- The statement has no texts of its own, and it has rows. -/
structure Insert.IsPure (q : Insert) : Prop where
  rows : q.rows ≠ []
  columns : ∀ c ∈ q.targetColumns, c.isPath
  returned : ∀ c ∈ q.returned, c.isPath
  comment : q.comment = none

theorem Insert.isPlain_draft {q : Insert} (hq : q.IsPure) : q.draft.fragment.IsPlain := by
  have hverb : isLink (q.verb.keyword ++ " INTO ") := by cases q.verb <;> decide
  have htarget : IsPlain ((q.target.map Table.fragment).getD []) := by
    cases q.target with
    | none => trivial
    | some t => exact isPlain_table t
  have hcolumns : IsClause (if q.targetColumns.isEmpty then []
      else .text " (" :: Column.listFragment q.targetColumns ++ [.text ")"]) := by
    have hlist := (Column.isPlain_listFragment hq.columns).behind_text (s := " (") (by decide)
    exact isClause_ite isClause_nil (hlist.append (isClause_text (by decide)))
  have hrows : IsPlain q.rowsFragment := by
    have hrow : ∀ row ∈ q.rows, IsPlain (tuple (row.map fun v => [.operand v])) := by
      intro row _
      have hvalues : IsPlain (separated ", " (row.map fun v => [.operand v])) :=
        isPlain_separated_map (by decide) fun v _ => isPlain_operand v
      have hopened := hvalues.behind_text (s := "(") (by decide)
      exact (hopened.append (isClause_text (by decide))).plain
    have hsome : q.rows.isEmpty = false := by simpa using hq.rows
    rw [rowsFragment, hsome]
    exact isPlain_separated_map (by decide) hrow
  have hvalues := hrows.behind_text (s := " VALUES ") (by decide)
  have htail := isClause_returning hq.returned hq.comment
  exact ((((htarget.behind_text hverb).append hcolumns).append hvalues).append htail).plain

/-- The statement has no texts of its own, and its columns are set to bound values. -/
structure Update.IsPure (q : Update) : Prop where
  assignments : ∀ a ∈ q.assignments, ∃ c v, a = .value c v ∧ c.isPath
  trees : ∀ c ∈ q.trees, c.IsPure
  ordering : ∀ c ∈ q.ordering, c.isPath
  returned : ∀ c ∈ q.returned, c.isPath
  comment : q.comment = none

theorem Update.isPlain_draft {q : Update} (hq : q.IsPure) : q.draft.fragment.IsPlain := by
  obtain ⟨hjoins, hrows⟩ := List.forall_mem_append.mp hq.trees
  have hassignments : IsPlain (separated ", " (q.assignments.map Assignment.fragment)) := by
    refine isPlain_separated_map (by decide) fun a ha => ?_
    obtain ⟨c, v, rfl, hc⟩ := hq.assignments a ha
    exact (Column.isClause_fragment hc).plain.append ((isPlain_operand v).behind_text (by decide))
  have hsources : IsClause (if q.sources.isEmpty then [] else .text " FROM " :: q.sources.fragment) :=
    isClause_ite isClause_nil ((isPlain_tables q.sources).behind_text (by decide))
  have hhead := ((isPlain_tables q.tables).behind_text (s := "UPDATE ") (by decide)).append
    (isClause_joins hjoins)
  have hset := hassignments.behind_text (s := " SET ") (by decide)
  have hwhere := (Condition.isPlain_fragmentAll hrows).clause (s := " WHERE ") (by decide)
  have horder := isClause_listed (s := " ORDER BY ") (by decide) hq.ordering
  have hbody := ((((hhead.append hset).append hsources).append hwhere).append horder).append
    (isClause_window q.limit none)
  have htail := isClause_returning hq.returned hq.comment
  exact (hbody.append htail).plain

structure Delete.IsPure (q : Delete) : Prop where
  targets : ∀ c ∈ q.targets, c.isPath
  trees : ∀ c ∈ q.trees, c.IsPure
  ordering : ∀ c ∈ q.ordering, c.isPath
  returned : ∀ c ∈ q.returned, c.isPath
  comment : q.comment = none

theorem Delete.isPlain_draft {q : Delete} (hq : q.IsPure) : q.draft.fragment.IsPlain := by
  obtain ⟨hjoins, hrows⟩ := List.forall_mem_append.mp hq.trees
  have htargets : IsPlain (if q.targets.isEmpty then []
      else Column.listFragment q.targets ++ [.text " "]) := by
    split
    · trivial
    · exact (Column.isPlain_listFragment hq.targets).append (isClause_text (by decide))
  have hfrom := (isPlain_tables q.tables).behind_text (s := "FROM ") (by decide)
  have hwhere := (Condition.isPlain_fragmentAll hrows).clause (s := " WHERE ") (by decide)
  have horder := isClause_listed (s := " ORDER BY ") (by decide) hq.ordering
  have hhead := htargets.behind_text (s := "DELETE ") (by decide)
  have hbody := ((((hhead.append hfrom).append (isClause_joins hjoins)).append hwhere).append
    horder).append (isClause_window q.limit none)
  have htail := isClause_returning hq.returned hq.comment
  exact (hbody.append htail).plain

namespace Assembler

/-- The statement is made of identifiers and bound values only. -/
inductive IsPure : Assembler → Prop
  | select {q : Select} (pure : q.IsPure) : IsPure (select q)
  | insert {q : Insert} (pure : q.IsPure) : IsPure (insert q)
  | update {q : Update} (pure : q.IsPure) : IsPure (update q)
  | delete {q : Delete} (pure : q.IsPure) : IsPure (delete q)

theorem isPlain_draft {a : Assembler} {D : Draft} (ha : a.IsPure) (hD : a.Drafts D) :
    D.fragment.IsPlain := by
  cases hD with
  | count q =>
    cases ha with
    | select hq => exact q.isPlain_countDraft hq
  | build a =>
    cases ha with
    | select hq => exact Select.isPlain_draft hq
    | insert hq => exact Insert.isPlain_draft hq
    | update hq => exact Update.isPlain_draft hq
    | delete hq => exact Delete.isPlain_draft hq

end Assembler

/-- A statement of identifiers and bound values that is built, by itself or to count rows, is a text
with a hole for each operand, and interpolation writes every operand into its hole and leaves all
else as it is exactly if, in front of every placeholder, the identifiers pass for it: written with
their quotes one behind the other, they have their apostrophes in pairs and do not have that
placeholder outside of the pairs. -/
theorem identifiers_are_opaque_iff {a : Assembler} {D : Draft} {s : Statement}
    {mark start close : Char} (ha : a.IsPure) (hD : a.Drafts D) (hs : D.build = .ok s)
    (hquoting : s.dialect.Quoting mark start close) :
    (∀ d ∈ Dialect.builtins, d.quotes.isSome → ∃ mark start close, d.Quoting mark start close) ∧
    ∃ h : Holed, h = D.fragment.holed s.dialect ∧
      s.text = h.fill s.dialect 0 ∧ s.operands = h.values ∧
      (s.interpolate = h.inlined ↔ ∀ x ∈ D.fragment.stretches.zipIdx 1,
        s.dialect.Passes x.2 (s.dialect.quoteAll x.1)) := by
  refine ⟨fun _ => Dialect.quoting_of_mem_builtins, _, rfl, ?_⟩
  obtain ⟨-, -, rfl⟩ := Draft.build_ok_iff.mp hs
  refine ⟨(Fragment.fill_holed _ 0 _).symm, (Fragment.values_holed _ _).symm, ?_⟩
  exact Fragment.interpolate_iff hquoting (Assembler.isPlain_draft ha hD)

/-- A table and a column with a placeholder between two apostrophes in each of their names. -/
theorem identifiers_are_opaque_iff_paired :
    let q : Update := (((({} : Update).withDialect .postgres).table (.parse "t'$1'")).assign
      (.value (.parse "a") (.int 5))).filter (.equals (.parse "b'$2'") (.text "it's"))
    let s : Statement := .ofFragment .postgres q.draft.fragment
    (Assembler.update q).IsPure ∧ q.build = .ok s ∧
      s.text = "UPDATE \"t'$1'\" SET \"a\"=$1 WHERE \"b'$2'\"=$2" ∧
      s.interpolate = "UPDATE \"t'$1'\" SET \"a\"=5 WHERE \"b'$2'\"='it''s'" := by
  intro q s
  have hpure : (Assembler.update q).IsPure := by
    refine .update ⟨?_, ?_, nofun, nofun, rfl⟩
    · exact List.forall_mem_singleton.mpr ⟨_, _, rfl, rfl⟩
    · exact List.forall_mem_singleton.mpr (by decide)
  have hbuild : q.build = .ok s := rfl
  obtain ⟨-, h, rfl, -, -, hiff⟩ :=
    identifiers_are_opaque_iff hpure (.build _) hbuild Dialect.quoting_postgres
  refine ⟨hpure, hbuild, by decide +kernel, hiff.mpr ?_⟩
  have hmark : Dialect.postgres.Marked '$' := Dialect.marked_postgres
  refine List.forall_mem_cons.mpr ⟨?_, List.forall_mem_singleton.mpr ?_⟩
  · exact hmark.passes_of_outside 1 (by decide) (by decide)
  · exact hmark.passes_of_outside 2 (by decide) (by decide)

/-- A placeholder in the name of a table takes the operand of the one behind it, and behind an
apostrophe in the name no placeholder is replaced. -/
theorem identifiers_are_searched_for_placeholders :
    let q (name : String) : Delete := ((({} : Delete).withDialect .sqlite).table (.parse name)).filter
      (.equals (.parse "x") (.int 1))
    let s : Statement := ⟨"DELETE FROM \"a?\" WHERE \"x\"=?", [.int 1], .sqlite⟩
    let t : Statement := ⟨"DELETE FROM \"o'clock\" WHERE \"x\"=?", [.int 1], .sqlite⟩
    (∀ name, (Assembler.delete (q name)).IsPure) ∧
      (q "a?").build = .ok s ∧ s.interpolate = "DELETE FROM \"a1\" WHERE \"x\"=?" ∧
      ((q "a?").draft.fragment.holed .sqlite).inlined = "DELETE FROM \"a?\" WHERE \"x\"=1" ∧
      (q "o'clock").build = .ok t ∧ t.interpolate = t.text ∧
      ((q "o'clock").draft.fragment.holed .sqlite).inlined =
        "DELETE FROM \"o'clock\" WHERE \"x\"=1" := by
  intro q s t
  refine ⟨fun name => .delete ⟨nofun, ?_, nofun, nofun, rfl⟩, rfl, ?_, rfl, rfl, ?_, rfl⟩
  · exact List.forall_mem_singleton.mpr (by decide)
  · decide +kernel
  · decide +kernel

end QueryKit
