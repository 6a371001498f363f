import QueryKit.Proofs.Operand.Condition

/-! The sites of whole statements. A statement that is built lays out the sites of its parts in
reading order, so that the placeholder with number n stands at the place of the n-th operand and the
operands are bound once each, in that order. The row of placeholders of an INSERT statement without
rows is the one place where placeholders stand for nothing. -/

namespace QueryKit

open Fragment

variable {d : Dialect}

/-! ### Sites -/

/-- The sites of joins in reading order. -/
def Join.sites (d : Dialect) (joins : List Join) : List Site :=
  joins.flatMap fun j => Condition.allSites d j.conditions

def Assignment.sites (d : Dialect) : Assignment → List Site
  | value column v => [⟨column.text d ++ "=", v⟩]
  | verbatim _ _ => []
  | template column expression values =>
    Site.ofTemplate (column.text d ++ "=") (Text.splitAt '?' expression.toList) values

/-- The sites of a page, in the order of the dialect. -/
def Page.sites (d : Dialect) (p : Page) : List Site :=
  if d.offsetFetch then
    [⟨" OFFSET ", .ofCount p.offset⟩, ⟨" ROWS FETCH NEXT ", .ofCount p.limit⟩]
  else [⟨" LIMIT ", .ofCount p.limit⟩, ⟨" OFFSET ", .ofCount p.offset⟩]

/-- The statement is not paged, or it is paged by a page. -/
inductive Select.PagedBy (q : Select) : Option Page → Prop
  | none (h : q.paging = none) : PagedBy q none
  | some (p : Page) (h : q.paging = some [.page p]) : PagedBy q (some p)

/-- The sites of the joins, the conditions on rows and the conditions on groups. -/
def Select.sourceSites (d : Dialect) (q : Select) : List Site :=
  Join.sites d q.joins ++ Condition.allSites d q.conditions ++
    Condition.allSites d q.groupConditions

/-- The sites of the rows, one row after another. -/
def Insert.sites (q : Insert) : List Site :=
  q.rows.flatMap (Site.ofList "(")

/-- The sites of the joins, the assignments and the conditions. -/
def Update.sites (d : Dialect) (q : Update) : List Site :=
  Join.sites d q.joins ++ q.assignments.flatMap (Assignment.sites d) ++
    Condition.allSites d q.conditions

def Delete.sites (d : Dialect) (q : Delete) : List Site :=
  Join.sites d q.joins ++ Condition.allSites d q.conditions

/-- The statement is one of the dialect and binds exactly the operands of the sites, in their order:
the n-th hole of its text is the place of the n-th site, and its placeholder has the number n. -/
def Statement.Binds (s : Statement) (d : Dialect) (sites : List Site) : Prop :=
  s.dialect = d ∧ ∃ h : Holed, s.text = h.fill d 0 ∧ h.Fits sites ∧
    s.operands = sites.map Site.value

/-- What is built from a draft binds the sites that the draft lays out. -/
theorem Draft.build_binds {draft : Draft} {s : Statement} {sites : List Site}
    (h : draft.build = .ok s)
    (hsites : draft.admission = .ok () → Lays draft.dialect draft.fragment sites) :
    s.Binds draft.dialect sites := by
  obtain ⟨hadmission, -, rfl⟩ := Draft.build_ok_iff.mp h
  have hlays := hsites hadmission
  exact ⟨rfl, draft.fragment.holed draft.dialect, (fill_holed _ 0 _).symm, hlays, hlays.values⟩

/-! ### Clauses without operands -/

theorem lays_columns (columns : List Column) : Lays d (Column.listFragment columns) [] :=
  lays_separated_nil ", " fun c _ => lays_of_operands_nil (c.operands_fragment d)

theorem lays_table (t : Table) : Lays d t.fragment [] := by
  have h := lays_of_operands_nil ((Column.parse t.name).operands_fragment d)
  cases hAlias : t.aliasName with
  | none => simpa [Table.fragment, hAlias] using h
  | some aliasName =>
    have hName : Lays d [.text " AS ", .name aliasName] [] := lays_of_operands_nil rfl
    simpa [Table.fragment, hAlias] using h.append hName

theorem lays_tables (ts : Tables) : Lays d ts.fragment [] :=
  lays_separated_nil ", " fun t _ => lays_table t

theorem lays_returning (columns : List Column) : Lays d (returningFragment columns) [] :=
  lays_ite lays_nil ((lays_columns columns).behind_text _)

theorem lays_order (columns : List Column) : Lays d (orderFragment columns) [] :=
  lays_ite lays_nil ((lays_columns columns).behind_text _)

theorem lays_comment (comment : Option String) : Lays d (commentFragment comment) [] := by
  cases comment with
  | none => exact lays_nil
  | some text =>
    simp only [commentFragment]
    generalize Text.trim text = body
    exact lays_ite lays_nil (lays_text _)

/-! ### Clauses with operands -/

theorem lays_joins {joins : List Join} (h : Join.checkAll joins = .ok ()) :
    Lays d (joins.flatMap Join.fragment) (Join.sites d joins) := by
  apply lays_flatMap
  intro j hj
  have hon := Condition.lays_fragmentAll (d := d) (Join.checkAll_ok_iff.mp h j hj)
  exact (lays_table j.table).behind_text _ |>.append (hon.clause " ON ")

theorem lays_assignment {a : Assignment} (h : a.check = .ok ()) :
    Lays d a.fragment (a.sites d) := by
  cases a with
  | value column v => exact Condition.lays_fragment (c := .equals column v) h
  | verbatim column expression =>
    apply lays_of_operands_nil
    simp [Assignment.fragment, operands_append]
  | template column expression values =>
    obtain ⟨-, -, hcount⟩ := Check.bind_ok_iff.mp h
    have h := lays_ofTemplate (operands_text_behind (column.operands_fragment d) "=") _ _
      (Condition.length_pieces_of_checkTemplate hcount)
    rw [Condition.render_column_text, List.append_assoc] at h
    exact h

theorem lays_page (p : Page) : Lays d [.page p] (p.sites d) := by
  have hself : ∀ lead : String, ∃ front, lead = front ++ lead := fun lead => ⟨"", by simp⟩
  unfold Lays Page.sites
  by_cases h : d.offsetFetch
  · simp [holed, Token.holed, h, Holed.append, Holed.Fits, hself]
  · simp [holed, Token.holed, h, Holed.append, Holed.Fits, hself]

/-! ### Statements -/

namespace Select

theorem lays_selection (q : Select) : Lays d q.selectionFragment [] := by
  have hColumns : Lays d (separated ", " (q.selections.map Selection.fragment)) [] := by
    refine lays_separated_nil ", " fun s _ => ?_
    have h := lays_of_operands_nil (s.column.operands_fragment d)
    cases hAlias : s.aliasName with
    | none => simpa [Selection.fragment, hAlias] using h
    | some aliasName =>
      have hName : Lays d [.text " AS ", .name aliasName] [] := lays_of_operands_nil rfl
      simpa [Selection.fragment, hAlias] using h.append hName
  exact (lays_ite (lays_text "DISTINCT ") lays_nil).append hColumns

theorem lays_source {q : Select} (h : q.checkConditions = .ok ()) :
    Lays d q.sourceFragment (q.sourceSites d) := by
  obtain ⟨hJoins, hRows, hGroups⟩ := checkConditions_ok_iff.mp h
  have hGrouping : Lays d (if q.grouping.isEmpty then []
      else .text " GROUP BY " :: Column.listFragment q.grouping) [] :=
    lays_ite lays_nil ((lays_columns q.grouping).behind_text _)
  have hTables := (lays_tables (d := d) q.tables).behind_text " FROM "
  have hWhere := (Condition.lays_fragmentAll (d := d) hRows).clause " WHERE "
  have hHaving := (Condition.lays_fragmentAll (d := d) hGroups).clause " HAVING "
  have hAll := (((hTables.append (lays_joins hJoins)).append hWhere).append hGrouping).append hHaving
  simpa [sourceFragment, sourceSites] using hAll

theorem lays_ordering (q : Select) : Lays d q.orderingFragment [] := by
  refine lays_ite lays_nil ((lays_separated_nil ", " fun k _ => ?_).behind_text _)
  have h := lays_of_operands_nil (k.column.operands_fragment d)
  cases hDirection : k.direction with
  | none => simpa [Ordering.Key.fragment, hDirection] using h
  | some direction =>
    cases direction
    · simpa [Ordering.Key.fragment, hDirection] using h.before_text " ASC"
    · simpa [Ordering.Key.fragment, hDirection] using h.before_text " DESC"

theorem lays_tail {q : Select} {page : Option Page} (h : q.PagedBy page) :
    Lays d q.tailFragment ((page.map (Page.sites d)).getD []) := by
  have hLock : Lays d (if q.locks then [.text " FOR UPDATE"] else []) [] :=
    lays_ite (lays_text _) lays_nil
  have hPaging : Lays d (q.paging.getD [.window q.limit q.offset])
      ((page.map (Page.sites d)).getD []) := by
    cases h with
    | none h => simpa [h] using lays_of_operands_nil rfl
    | some p h => simpa [h] using lays_page p
  have hAll := (((lays_ordering q).append hPaging).append hLock).append (lays_comment q.comment)
  simpa [tailFragment] using hAll

theorem lays_body {q : Select} {page : Option Page} (h : q.checkConditions = .ok ())
    (hp : q.PagedBy page) :
    Lays d q.draft.fragment (q.sourceSites d ++ (page.map (Page.sites d)).getD []) := by
  have hAll := ((lays_selection q).behind_text "SELECT " |>.append (lays_source (d := d) h)).append
    (lays_tail hp)
  simpa [Draft.fragment, draft] using hAll

theorem lays_count {q : Select} (h : q.checkConditions = .ok ()) :
    Lays d q.countDraft.fragment (q.sourceSites d) := by
  have hSource := lays_source (d := d) h
  have hSelection : Lays d (if q.isDistinct && !q.selections.isEmpty then q.selectionFragment
      else [.text "1"]) [] :=
    lays_ite (lays_selection q) (lays_text _)
  have hAround := ((hSelection.append hSource).behind_text "SELECT COUNT(*) FROM (SELECT ")
    |>.before_text ") AS t"
  have hRows := lays_ite (p := q.countsAround) hAround (hSource.behind_text "SELECT COUNT(*)")
  simpa [Draft.fragment, countDraft] using hRows.append (lays_comment q.comment)

end Select

namespace Insert

theorem lays_row (row : List Value) :
    Lays d (tuple (row.map fun v => [.operand v])) (Site.ofList "(" row) := by
  cases row with
  | nil => exact lays_of_operands_nil rfl
  | cons v vs =>
    have h := (lays_ofValues (d := d) (f := [.text "("]) rfl v vs).before_text ")"
    simpa [render, Token.render, tuple, ofValues] using h

theorem lays_rows {q : Insert} (h : q.rows ≠ []) : Lays d q.rowsFragment q.sites := by
  have hRows : q.rows.isEmpty = false := by simpa using h
  simp only [rowsFragment, hRows, Bool.false_eq_true, if_false]
  exact lays_separated_map ", " fun row _ => lays_row row

def headFragment (q : Insert) : Fragment :=
  .text (q.verb.keyword ++ " INTO ") :: (q.target.map Table.fragment).getD [] ++
    (if q.targetColumns.isEmpty then []
    else .text " (" :: Column.listFragment q.targetColumns ++ [.text ")"]) ++ [.text " VALUES "]

theorem draft_fragment_eq (q : Insert) :
    q.draft.fragment = q.headFragment ++ q.rowsFragment ++ q.draft.tail := by
  simp [Draft.fragment, draft, body, headFragment]

theorem lays_head (q : Insert) : Lays d q.headFragment [] := by
  have hTarget : Lays d ((q.target.map Table.fragment).getD []) [] := by
    cases q.target with
    | none => exact lays_nil
    | some t => exact lays_table t
  have hColumns : Lays d (if q.targetColumns.isEmpty then []
      else .text " (" :: Column.listFragment q.targetColumns ++ [.text ")"]) [] :=
    lays_ite lays_nil (((lays_columns q.targetColumns).behind_text " (").before_text ")")
  exact ((hTarget.behind_text _).append hColumns).before_text " VALUES "

theorem lays_returned (q : Insert) : Lays d q.draft.tail [] :=
  (lays_returning q.returned).append (lays_comment q.comment)

theorem lays_draft {q : Insert} (h : q.rows ≠ []) : Lays d q.draft.fragment q.sites := by
  have hAll := ((lays_head (d := d) q).append (lays_rows h)).append (lays_returned q)
  simpa [draft_fragment_eq] using hAll

/-- The row of placeholders of a statement without rows. -/
def templateRow (d : Dialect) (q : Insert) : String :=
  "(" ++ String.intercalate ", " ((List.range q.arity).map fun i => d.placeholder (i + 1)) ++ ")"

theorem operands_markers (d : Dialect) (n : Nat) :
    ∀ f ∈ (List.range n).map fun i => [Token.marker (i + 1)], Fragment.operands d f = [] := by
  intro f hf
  obtain ⟨i, -, rfl⟩ := List.mem_map.mp hf
  rfl

theorem lays_template {q : Insert} (h : q.rows = []) : Lays d q.rowsFragment [] := by
  have hMarkers := lays_separated_nil (d := d) ", " fun i (_ : i ∈ List.range q.arity) =>
    lays_of_operands_nil (f := [.marker (i + 1)]) rfl
  simpa [rowsFragment, h, tuple] using (hMarkers.behind_text "(").before_text ")"

theorem render_template {q : Insert} (h : q.rows = []) (bound : Nat) :
    render d bound q.rowsFragment = q.templateRow d := by
  have hMarkers := render_separated d bound ", " ((List.range q.arity).map fun i => [.marker (i + 1)])
  rw [renderEach_of_operands_nil bound (operands_markers d q.arity)] at hMarkers
  simp [rowsFragment, h, tuple, templateRow, render, render_append, hMarkers, Token.render,
    Token.operands, Function.comp_def, String.append_assoc]

/-- Without rows a statement binds nothing and writes its row of placeholders. -/
theorem template_of_build {q : Insert} {s : Statement} (h : q.build = .ok s) (hr : q.rows = []) :
    s.dialect = q.resolved ∧ s.operands = [] ∧
      ∃ front back, s.text = front ++ q.templateRow s.dialect ++ back := by
  obtain ⟨-, -, rfl⟩ := Draft.build_ok_iff.mp h
  have hAll := ((lays_head (d := q.resolved) q).append (lays_template hr)).append (lays_returned q)
  let bound := (operands q.resolved (q.headFragment ++ q.rowsFragment)).length
  refine ⟨rfl, ?_, q.headFragment.render q.resolved 0, q.draft.tail.render q.resolved bound, ?_⟩
  · rw [← draft_fragment_eq] at hAll
    exact hAll.values
  · rw [Statement.ofFragment, draft_fragment_eq, render_append, render_append,
      render_template hr, Nat.zero_add]
    rfl

end Insert

theorem Update.lays_draft {q : Update} (h : q.checkAll = .ok ()) :
    Lays d q.draft.fragment (q.sites d) := by
  obtain ⟨⟨-, -, hAssignments, hJoins, hRows⟩, -⟩ := checkAll_ok_iff.mp h
  have hSources : Lays d (if q.sources.isEmpty then [] else .text " FROM " :: q.sources.fragment) [] :=
    lays_ite lays_nil ((lays_tables q.sources).behind_text _)
  have hSet := lays_separated_map (d := d) ", " fun a ha => lays_assignment (hAssignments a ha)
  have hWhere := (Condition.lays_fragmentAll (d := d) hRows).clause " WHERE "
  have hWindow : Lays d [.window q.limit none] [] := lays_of_operands_nil rfl
  have hHead := ((lays_tables (d := d) q.tables).behind_text "UPDATE ").append (lays_joins hJoins)
  have hBody := ((((hHead.append (hSet.behind_text " SET ")).append hSources).append hWhere).append
    (lays_order q.ordering)).append hWindow
  have hAll := hBody.append ((lays_returning q.returned).append (lays_comment q.comment))
  simpa [Draft.fragment, draft, body, sites] using hAll

theorem Delete.lays_draft {q : Delete} (h : q.checkAll = .ok ()) :
    Lays d q.draft.fragment (q.sites d) := by
  obtain ⟨⟨-, hJoins, hRows⟩, -⟩ := checkAll_ok_iff.mp h
  have hTargets : Lays d (if q.targets.isEmpty then []
      else Column.listFragment q.targets ++ [.text " "]) [] :=
    lays_ite lays_nil ((lays_columns q.targets).before_text " ")
  have hWhere := (Condition.lays_fragmentAll (d := d) hRows).clause " WHERE "
  have hWindow : Lays d [.window q.limit none] [] := lays_of_operands_nil rfl
  have hTables := (lays_tables (d := d) q.tables).behind_text "FROM "
  have hBody := (((((hTargets.behind_text "DELETE ").append hTables).append (lays_joins hJoins)).append
    hWhere).append (lays_order q.ordering)).append hWindow
  have hAll := hBody.append ((lays_returning q.returned).append (lays_comment q.comment))
  simpa [Draft.fragment, draft, body, sites] using hAll

/-! ### Built statements -/

/-- Every built statement binds exactly the operands of its sites, each by the placeholder with its
number at its place: those of joins, conditions on rows, conditions on groups and the page of a
SELECT statement, the same without the page for a count, the rows of an INSERT statement, the joins,
assignments and conditions of an UPDATE statement, and the joins and conditions of a DELETE
statement. An INSERT statement without rows writes its placeholders and binds nothing. -/
theorem built_statements_bind_their_sites :
    (∀ (q : Select) (page : Option Page) (s : Statement), q.PagedBy page → q.build = .ok s →
      s.Binds q.resolved (q.sourceSites q.resolved ++ (page.map (Page.sites q.resolved)).getD [])) ∧
    (∀ (q : Select) (s : Statement), q.count = .ok s →
      s.Binds q.resolved (q.sourceSites q.resolved)) ∧
    (∀ (q : Insert) (s : Statement), q.rows ≠ [] → q.build = .ok s →
      s.Binds q.resolved q.sites) ∧
    (∀ (q : Insert) (s : Statement), q.rows = [] → q.build = .ok s →
      s.dialect = q.resolved ∧ s.operands = [] ∧
        ∃ front back, s.text = front ++ q.templateRow s.dialect ++ back) ∧
    (∀ (q : Update) (s : Statement), q.build = .ok s → s.Binds q.resolved (q.sites q.resolved)) ∧
    ∀ (q : Delete) (s : Statement), q.build = .ok s → s.Binds q.resolved (q.sites q.resolved) := by
  refine ⟨fun q page s hpage h => ?_, fun q s h => ?_, fun q s hrows h => ?_,
    fun q s hrows h => q.template_of_build h hrows, fun q s h => ?_, fun q s h => ?_⟩
  · refine Draft.build_binds h fun hadmission => ?_
    exact Select.lays_body (Select.check_ok_iff.mp hadmission).2.2 hpage
  · refine Draft.build_binds h fun hadmission => ?_
    exact Select.lays_count (Select.checkCount_ok_iff.mp hadmission).2
  · exact Draft.build_binds h fun _ => Insert.lays_draft hrows
  · exact Draft.build_binds h fun hadmission => Update.lays_draft hadmission
  · exact Draft.build_binds h fun hadmission => Delete.lays_draft hadmission

/-- Groups that vanish, a negation and a page: the operands keep the order of their placeholders. -/
theorem built_statements_bind_their_sites_paged :
    let q : Select := { dialect := some .sqlserver
                        selections := [⟨.named "id", none⟩]
                        tables := [⟨"users", none⟩]
                        conditions := [.group .and [.group .or [], .equals (.named "a") (.int 1)],
                          .negation (.between (.named "b") (.int 2) (.int 3) false)]
                        paging := some [.page (.of 3 10)] }
    let s : Statement := .ofFragment .sqlserver q.draft.fragment
    q.PagedBy (some (.of 3 10)) ∧ q.build = .ok s ∧
      s.Binds .sqlserver
        [⟨"[a]=", .int 1⟩, ⟨"[b] BETWEEN ", .int 2⟩, ⟨" AND ", .int 3⟩, ⟨" OFFSET ", .int 20⟩,
          ⟨" ROWS FETCH NEXT ", .int 10⟩] := by
  intro q s
  have hpage : q.PagedBy (some (.of 3 10)) := .some _ rfl
  have hbuild : q.build = .ok s := rfl
  exact ⟨hpage, hbuild, built_statements_bind_their_sites.1 q _ s hpage hbuild⟩

end QueryKit
