import QueryKit.Proofs.Check
import QueryKit.Proofs.Identifier
import QueryKit.Proofs.Operand.Holed

/-! Counting the rows of a SELECT statement. The statement that counts them writes the same text
from the tables to the conditions on groups, placeholders included, and binds the same operands
there. What differs is what stands before that text, and that order, limit and offset do not
follow. -/

namespace QueryKit

namespace Fragment

variable {d : Dialect} {f g : Fragment} {text text' : String}

/-- The fragment binds nothing and has the same text wherever it stands. -/
structure Writes (d : Dialect) (f : Fragment) (text : String) : Prop where
  operands_eq : f.operands d = []
  render_eq (bound : Nat) : f.render d bound = text

theorem Writes.append (hf : f.Writes d text) (hg : g.Writes d text') :
    Writes d (f ++ g) (text ++ text') where
  operands_eq := by rw [operands_append, hf.operands_eq, hg.operands_eq, List.append_nil]
  render_eq bound := by rw [render_append, hf.render_eq, hg.render_eq]

/-- A fragment that binds nothing has no use for the number of operands before it. -/
theorem writes_of_operands_nil (hf : f.operands d = []) : Writes d f (f.render d 0) where
  operands_eq := hf
  render_eq bound := by
    rw [← fill_holed, holed_of_operands_nil hf]
    rfl

theorem writes_nil : Writes d [] "" :=
  ⟨rfl, fun _ => rfl⟩

theorem writes_text (s : String) : Writes d [.text s] s :=
  ⟨rfl, fun _ => String.append_empty⟩

theorem Writes.behind_text (s : String) (hf : f.Writes d text) :
    Writes d (.text s :: f) (s ++ text) :=
  (writes_text s).append hf

theorem writes_ite {p : Prop} [Decidable p] (hf : f.Writes d text) (hg : g.Writes d text') :
    Writes d (if p then f else g) (if p then text else text') := by
  by_cases h : p
  · simpa only [h, if_true] using hf
  · simpa only [h, if_false] using hg

theorem writes_separated {α : Type} {xs : List α} {f : α → Fragment} {text : α → String}
    (separator : String) (h : ∀ x, Writes d (f x) (text x)) :
    Writes d (separated separator (xs.map f)) (String.intercalate separator (xs.map text)) where
  operands_eq := (lays_separated_nil (d := d) separator fun x (_ : x ∈ xs) =>
    lays_of_operands_nil (h x).operands_eq).values
  render_eq bound := by
    have hnone : ∀ g ∈ xs.map f, operands d g = [] := by
      intro g hg
      obtain ⟨x, -, rfl⟩ := List.mem_map.mp hg
      exact (h x).operands_eq
    have htexts : (xs.map f).map (render d bound) = xs.map text := by
      rw [List.map_map]
      exact List.map_congr_left fun x _ => (h x).render_eq bound
    rw [render_separated, renderEach_of_operands_nil bound hnone, htexts]

theorem operands_clause (keyword : String) (f : Fragment) :
    operands d (clause keyword f) = operands d f := by
  unfold clause
  split
  · exact (operands_of_isVoid ‹_›).symm
  · rfl

end Fragment

open Fragment

variable {d : Dialect}

/-! ### Clauses without operands -/

theorem writes_column (c : Column) : Writes d c.fragment (c.text d) :=
  writes_of_operands_nil (c.operands_fragment d)

/-- A column or a table with the name that a statement gives it. -/
def Column.textAs (d : Dialect) (aliasName : Option String) (c : Column) : String :=
  c.text d ++
    match aliasName with
    | some name => " AS " ++ d.quote name
    | none => ""

def Selection.text (d : Dialect) (s : Selection) : String :=
  s.column.textAs d s.aliasName

def Table.text (d : Dialect) (t : Table) : String :=
  (Column.parse t.name).textAs d t.aliasName

def Ordering.Key.text (d : Dialect) (k : Ordering.Key) : String :=
  k.column.text d ++
    match k.direction with
    | some .ascending => " ASC"
    | some .descending => " DESC"
    | none => ""

/-- A list with commas between its members. -/
def listText {α : Type} (text : α → String) (xs : List α) : String :=
  String.intercalate ", " (xs.map text)

/-- A comment behind a statement; a blank one is not written. -/
def commentText : Option String → String
  | none => ""
  | some text =>
    if (Text.trim text).isEmpty then ""
    else " /* " ++ String.ofList (commentChars (Text.trim text).toList) ++ " */"

theorem writes_alias (name : String) :
    Writes d [.text " AS ", .name name] (" AS " ++ d.quote name) :=
  ⟨rfl, fun _ => by simp [render, Token.render]⟩

theorem writes_selection (s : Selection) : Writes d s.fragment (s.text d) := by
  obtain ⟨column, aliasName⟩ := s
  cases aliasName with
  | none => exact (writes_column column).append writes_nil
  | some name => exact (writes_column column).append (writes_alias name)

theorem writes_table (t : Table) : Writes d t.fragment (t.text d) := by
  obtain ⟨table, aliasName⟩ := t
  cases aliasName with
  | none => exact (writes_column (Column.parse table)).append writes_nil
  | some name => exact (writes_column (Column.parse table)).append (writes_alias name)

theorem writes_key (k : Ordering.Key) : Writes d k.fragment (k.text d) := by
  obtain ⟨column, direction⟩ := k
  cases direction with
  | none => exact (writes_column column).append writes_nil
  | some direction =>
    cases direction with
    | ascending => exact (writes_column column).append (writes_text " ASC")
    | descending => exact (writes_column column).append (writes_text " DESC")

theorem writes_comment (comment : Option String) :
    Writes d (commentFragment comment) (commentText comment) := by
  cases comment with
  | none => exact writes_nil
  | some text =>
    simp only [commentFragment, commentText]
    exact writes_ite writes_nil (writes_text _)

/-! ### Clauses with operands -/

/-- Conditions behind a keyword, after a number of operands. -/
def Condition.textAll (d : Dialect) (keyword : String) (bound : Nat) (cs : List Condition) :
    String :=
  (clause keyword (fragmentAll cs)).render d bound

def Condition.operandsAll (d : Dialect) (cs : List Condition) : List Value :=
  (fragmentAll cs).operands d

namespace Join

/-- Joins after a number of operands. -/
def textAll (d : Dialect) : Nat → List Join → String
  | _, [] => ""
  | bound, j :: js =>
    " " ++ j.kind.keyword ++ " " ++ j.table.text d ++
      Condition.textAll d " ON " bound j.conditions ++
      textAll d (bound + (Condition.operandsAll d j.conditions).length) js

def operandsAll (d : Dialect) (js : List Join) : List Value :=
  js.flatMap fun j => Condition.operandsAll d j.conditions

theorem operands_fragment (j : Join) :
    j.fragment.operands d = Condition.operandsAll d j.conditions := by
  rw [fragment, List.cons_append, operands_text_cons, operands_append,
    (writes_table j.table).operands_eq, operands_clause]
  rfl

theorem render_fragment (bound : Nat) (j : Join) :
    j.fragment.render d bound = " " ++ j.kind.keyword ++ " " ++ j.table.text d ++
      Condition.textAll d " ON " bound j.conditions := by
  have hhead := (writes_table (d := d) j.table).behind_text (" " ++ j.kind.keyword ++ " ")
  rw [fragment, render_append, hhead.operands_eq, hhead.render_eq]
  rfl

theorem operands_flatMap (js : List Join) :
    operands d (js.flatMap fragment) = operandsAll d js := by
  induction js with
  | nil => rfl
  | cons j js ih =>
    rw [List.flatMap_cons, operands_append, operands_fragment, ih]
    rfl

theorem render_flatMap (bound : Nat) (js : List Join) :
    render d bound (js.flatMap fragment) = textAll d bound js := by
  induction js generalizing bound with
  | nil => rfl
  | cons j js ih =>
    rw [List.flatMap_cons, render_append, operands_fragment, render_fragment, ih]
    rfl

end Join

namespace Select

variable {q : Select}

/-- The values that the joins, the conditions on rows and the conditions on groups bind. -/
def sourceOperands (d : Dialect) (q : Select) : List Value :=
  Join.operandsAll d q.joins ++ Condition.operandsAll d q.conditions ++
    Condition.operandsAll d q.groupConditions

/-- The text from the tables to the conditions on groups. -/
def sourceText (d : Dialect) (q : Select) : String :=
  -- Placeholders are numbered on from clause to clause.
  let joined := (Join.operandsAll d q.joins).length
  let kept := joined + (Condition.operandsAll d q.conditions).length
  " FROM " ++ listText (Table.text d) q.tables ++ Join.textAll d 0 q.joins ++
    Condition.textAll d " WHERE " joined q.conditions ++
    (if q.grouping.isEmpty then "" else " GROUP BY " ++ listText (Column.text d) q.grouping) ++
    Condition.textAll d " HAVING " kept q.groupConditions

/-- The page, or the limit and offset, after a number of operands. -/
def pagingText (d : Dialect) (bound : Nat) (q : Select) : String :=
  match q.paging with
  | some f => f.render d bound
  | none => d.window q.limit q.offset

def pagingOperands (d : Dialect) (q : Select) : List Value :=
  match q.paging with
  | some f => f.operands d
  | none => []

/-- The text behind the conditions on groups, after a number of operands. -/
def tailText (d : Dialect) (bound : Nat) (q : Select) : String :=
  (if q.ordering.isEmpty then "" else " ORDER BY " ++ listText (Ordering.Key.text d) q.ordering) ++
    q.pagingText d bound ++ (if q.locks then " FOR UPDATE" else "") ++ commentText q.comment

theorem writes_selections (q : Select) :
    Writes d q.selectionFragment
      ((if q.isDistinct then "DISTINCT " else "") ++ listText (Selection.text d) q.selections) :=
  (writes_ite (writes_text _) writes_nil).append (writes_separated ", " writes_selection)

theorem writes_tables (q : Select) :
    Writes d (.text " FROM " :: q.tables.fragment)
      (" FROM " ++ listText (Table.text d) q.tables) :=
  (writes_separated ", " writes_table).behind_text " FROM "

theorem writes_grouping (q : Select) :
    Writes d (if q.grouping.isEmpty then []
      else .text " GROUP BY " :: Column.listFragment q.grouping)
      (if q.grouping.isEmpty then "" else " GROUP BY " ++ listText (Column.text d) q.grouping) :=
  writes_ite writes_nil ((writes_separated ", " writes_column).behind_text " GROUP BY ")

theorem writes_ordering (q : Select) :
    Writes d q.orderingFragment
      (if q.ordering.isEmpty then ""
      else " ORDER BY " ++ listText (Ordering.Key.text d) q.ordering) :=
  writes_ite writes_nil ((writes_separated ", " writes_key).behind_text " ORDER BY ")

theorem writes_locks (q : Select) :
    Writes d (if q.locks then [.text " FOR UPDATE"] else [])
      (if q.locks then " FOR UPDATE" else "") :=
  writes_ite (writes_text _) writes_nil

theorem operands_source (q : Select) : q.sourceFragment.operands d = q.sourceOperands d := by
  simp only [sourceFragment, operands_append, (writes_tables q).operands_eq,
    (writes_grouping q).operands_eq, Join.operands_flatMap, operands_clause, List.nil_append,
    List.append_nil]
  rfl

theorem render_source (q : Select) : q.sourceFragment.render d 0 = q.sourceText d := by
  simp only [sourceFragment, render_append, operands_append, (writes_tables q).operands_eq,
    (writes_tables q).render_eq, (writes_grouping q).operands_eq, (writes_grouping q).render_eq,
    Join.operands_flatMap, Join.render_flatMap, operands_clause, List.nil_append, List.append_nil,
    List.length_append, List.length_nil, Nat.zero_add]
  rfl

theorem operands_paging (q : Select) :
    operands d (q.paging.getD [.window q.limit q.offset]) = q.pagingOperands d := by
  unfold pagingOperands
  cases q.paging <;> rfl

theorem render_paging (bound : Nat) (q : Select) :
    render d bound (q.paging.getD [.window q.limit q.offset]) = q.pagingText d bound := by
  unfold pagingText
  cases q.paging with
  | none => exact String.append_empty
  | some f => rfl

theorem operands_tail (q : Select) : q.tailFragment.operands d = q.pagingOperands d := by
  simp only [tailFragment, operands_append, (writes_ordering q).operands_eq,
    (writes_locks q).operands_eq, (writes_comment q.comment).operands_eq, operands_paging,
    List.nil_append, List.append_nil]

theorem render_tail (bound : Nat) (q : Select) :
    q.tailFragment.render d bound = q.tailText d bound := by
  simp only [tailFragment, render_append, (writes_ordering q).operands_eq,
    (writes_ordering q).render_eq, (writes_locks q).render_eq,
    (writes_comment q.comment).render_eq, render_paging, List.length_nil, Nat.add_zero]
  rfl

/-! ### The two statements -/

theorem draft_operands_eq (q : Select) :
    q.draft.fragment.operands d = q.sourceOperands d ++ q.pagingOperands d := by
  have hselect := (writes_selections (d := d) q).behind_text "SELECT "
  simp only [Draft.fragment, draft, List.append_nil, operands_append, hselect.operands_eq,
    operands_source, operands_tail, List.nil_append]

theorem draft_text_eq (q : Select) :
    q.draft.fragment.render d 0 =
      "SELECT " ++ (if q.isDistinct then "DISTINCT " else "") ++
        listText (Selection.text d) q.selections ++ q.sourceText d ++
        q.tailText d (q.sourceOperands d).length := by
  have hselect := (writes_selections (d := d) q).behind_text "SELECT "
  simp only [Draft.fragment, draft, List.append_nil, render_append, operands_append,
    hselect.operands_eq, hselect.render_eq, operands_source, render_source, render_tail,
    List.nil_append, List.length_nil, Nat.zero_add, String.append_assoc]

theorem countsAround_eq_false_iff :
    q.countsAround = false ↔ q.isDistinct = false ∧ q.grouping = [] ∧ q.groupConditions = [] := by
  simp [countsAround, and_assoc]

theorem count_plain (h : q.countsAround = false) :
    q.countDraft.fragment.operands d = q.sourceOperands d ∧
      q.countDraft.fragment.render d 0 =
        "SELECT COUNT(*)" ++ q.sourceText d ++ commentText q.comment := by
  have hfront := writes_text (d := d) "SELECT COUNT(*)"
  have hcomment := writes_comment (d := d) q.comment
  have hbody : q.countDraft.fragment =
      [.text "SELECT COUNT(*)"] ++ q.sourceFragment ++ commentFragment q.comment := by
    simp [Draft.fragment, countDraft, h]
  rw [hbody, operands_append, operands_append, render_append, render_append, operands_append,
    hfront.operands_eq, hfront.render_eq, hcomment.operands_eq, hcomment.render_eq,
    operands_source, List.nil_append, List.append_nil, List.length_nil, render_source]
  exact ⟨rfl, rfl⟩

/-- What the counted statement selects, if it stands inside of the one that counts. -/
theorem writes_projection (h : q.selections ≠ []) :
    Writes d (if q.isDistinct && !q.selections.isEmpty then q.selectionFragment else [.text "1"])
      (if q.isDistinct then "DISTINCT " ++ listText (Selection.text d) q.selections else "1") := by
  have hcolumns := writes_selections (d := d) q
  cases hdistinct : q.isDistinct with
  | false => simpa using writes_text "1"
  | true => simpa [hdistinct, h] using hcolumns

theorem count_around (h : q.countsAround = true) (hcolumns : q.selections ≠ []) :
    q.countDraft.fragment.operands d = q.sourceOperands d ∧
      q.countDraft.fragment.render d 0 =
        "SELECT COUNT(*) FROM (SELECT " ++
          (if q.isDistinct then "DISTINCT " ++ listText (Selection.text d) q.selections else "1") ++
          q.sourceText d ++ ") AS t" ++ commentText q.comment := by
  have hfront := (writes_projection (d := d) hcolumns).behind_text "SELECT COUNT(*) FROM (SELECT "
  have hback := (writes_text (d := d) ") AS t").append (writes_comment q.comment)
  simp only [Draft.fragment, countDraft, h, if_true, List.append_nil, List.append_assoc,
    operands_append, render_append, hfront.operands_eq, hfront.render_eq, hback.operands_eq,
    hback.render_eq, operands_source, render_source, List.nil_append, List.length_nil,
    Nat.zero_add, String.append_assoc, and_self]

/-- Whenever a SELECT statement is built, so is the statement that counts its rows. Both have the
same text from the tables to the conditions on groups; the count selects it directly, or around the
statement if rows are distinct or grouped, and binds the operands of the statement without those of
its page. Order, limit, offset, page and locks make no difference to the count. -/
theorem counts_share_the_source (q : Select) :
    (∀ s, q.build = .ok s → ∃ c, q.count = .ok c ∧ s.dialect = q.resolved ∧
      c.dialect = q.resolved ∧
      s.text = "SELECT " ++ (if q.isDistinct then "DISTINCT " else "") ++
        listText (Selection.text q.resolved) q.selections ++ q.sourceText q.resolved ++
        q.tailText q.resolved c.operands.length ∧
      c.text = (if q.isDistinct = false ∧ q.grouping = [] ∧ q.groupConditions = [] then
          "SELECT COUNT(*)" ++ q.sourceText q.resolved
        else
          "SELECT COUNT(*) FROM (SELECT " ++
            (if q.isDistinct then
              "DISTINCT " ++ listText (Selection.text q.resolved) q.selections
            else "1") ++ q.sourceText q.resolved ++ ") AS t") ++ commentText q.comment ∧
      c.operands = q.sourceOperands q.resolved ∧
      s.operands = c.operands ++ q.pagingOperands q.resolved) ∧
    ∀ ordering limit offset paging locks,
      ({ q with ordering, limit, offset, paging, locks } : Select).count = q.count := by
  refine ⟨fun s hs => ?_, fun _ _ _ _ _ => rfl⟩
  obtain ⟨hcheck, -, rfl⟩ := Draft.build_ok_iff.mp hs
  obtain ⟨htables, hcolumns, hconditions⟩ := check_ok_iff.mp hcheck
  have hadmission : q.checkCount = .ok () := checkCount_ok_iff.mpr ⟨htables, hconditions⟩
  have hcount : q.count = .ok (.ofFragment q.resolved q.countDraft.fragment) :=
    Draft.build_ok_iff.mpr ⟨hadmission, rfl, rfl⟩
  have hdraft := draft_text_eq (d := q.resolved) q
  refine ⟨_, hcount, rfl, rfl, ?_⟩
  cases haround : q.countsAround with
  | false =>
    obtain ⟨hoperands, htext⟩ := count_plain (d := q.resolved) haround
    rw [if_pos (countsAround_eq_false_iff.mp haround)]
    simp only [Statement.ofFragment, hoperands]
    exact ⟨hdraft, htext, trivial, draft_operands_eq q⟩
  | true =>
    obtain ⟨hoperands, htext⟩ := count_around (d := q.resolved) haround hcolumns
    have hgrouped : ¬(q.isDistinct = false ∧ q.grouping = [] ∧ q.groupConditions = []) := by
      rw [← countsAround_eq_false_iff, haround]
      exact Bool.noConfusion
    rw [if_neg hgrouped]
    simp only [Statement.ofFragment, hoperands]
    exact ⟨hdraft, htext, trivial, draft_operands_eq q⟩

/-- Distinct rows with a join and a page: the count stands around the statement and binds two of its
four operands. -/
theorem counts_share_the_source_distinct :
    let q : Select := { dialect := some .postgres
                        isDistinct := true
                        selections := [⟨.named "name", some "n"⟩]
                        tables := [⟨"users", some "u"⟩]
                        joins := [⟨.left, ⟨"orders", none⟩, [.equals (.named "open") (.int 1)]⟩]
                        conditions := [.equals (.named "age") (.int 30)]
                        ordering := [⟨.named "name", none⟩]
                        paging := some [.page (.of 3 10)] }
    let source := " FROM \"users\" AS \"u\" LEFT JOIN \"orders\" ON \"open\"=$1 WHERE \"age\"=$2"
    ∃ s c, q.build = .ok s ∧ q.count = .ok c ∧
      s.text = "SELECT DISTINCT \"name\" AS \"n\"" ++ source ++
        " ORDER BY \"name\" LIMIT $3 OFFSET $4" ∧
      c.text = "SELECT COUNT(*) FROM (SELECT DISTINCT \"name\" AS \"n\"" ++ source ++ ") AS t" ∧
      c.operands = [.int 1, .int 30] ∧ s.operands = c.operands ++ [.int 10, .int 20] := by
  intro q source
  have hbuild : q.build = .ok (.ofFragment .postgres q.draft.fragment) :=
    Draft.build_ok_iff.mpr ⟨rfl, rfl, rfl⟩
  obtain ⟨c, hcount, -, -, hs, hc, hoperands, hmore⟩ := (counts_share_the_source q).1 _ hbuild
  refine ⟨_, c, hbuild, hcount, hs.trans ?_, hc.trans ?_, hoperands, hmore⟩
  · rw [hoperands]
    decide +kernel
  · decide +kernel

end Select

end QueryKit
