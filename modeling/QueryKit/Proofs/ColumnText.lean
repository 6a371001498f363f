import QueryKit.Proofs.Admission
import QueryKit.Proofs.Blank
import QueryKit.Proofs.Reading.Remains

/-! The texts of columns. A column that passes its check is not blank in any dialect, unless it is a
path without parts, which has no text at all. So no side of a predicate, no target of an insertion
and no assigned column is left blank, except by such a path; none is read from a string. -/

namespace QueryKit

variable {d : Dialect}

theorem Dialect.mem_doubled (close : Char) {c : Char} {cs : List Char} (h : c ∈ cs) :
    c ∈ doubled close cs := by
  refine List.mem_flatMap.mpr ⟨c, h, ?_⟩
  by_cases hc : c = close <;> simp [hc]

/-- Quotes leave every character of an identifier where it is. -/
theorem Dialect.allBlank_quote (d : Dialect) {s : String} (hs : Text.allBlank s = false) :
    Text.allBlank (d.quote s) = false := by
  rw [← Bool.not_eq_true] at hs ⊢
  refine mt (fun hquote => ?_) hs
  rw [Text.allBlank_iff, quote, String.toList_ofList] at hquote
  rw [Text.allBlank_iff]
  intro c hc
  refine hquote c ?_
  unfold quoteChars
  split
  · exact hc
  · simp [mem_doubled _ hc]

namespace Column

/-- The text of the column is not blank, wherever it stands. -/
def IsWritten (d : Dialect) (column : Column) : Prop :=
  ∀ bound, Text.allBlank (column.fragment.render d bound) = false

theorem inked_fragment {column : Column} (hblank : column.isBlank = false)
    (hpath : column ≠ .path []) : column.fragment.Inked d := by
  match column with
  | verbatim expression => exact Fragment.inked_of_text List.mem_cons_self hblank
  | path [] => contradiction
  | path [last] =>
    have hlast : Text.allBlank last = false := by simpa [isBlank] using hblank
    by_cases hstar : last = "*"
    · exact Fragment.inked_of_text (s := "*") (by simp [fragment, pathFragment, hstar]) (by decide)
    · exact ⟨.name last, by simp [fragment, pathFragment, hstar], fun _ => d.allBlank_quote hlast⟩
  | path (part :: next :: rest) =>
    have hpart : Text.allBlank part = false := by
      simp only [isBlank, List.any_cons, Bool.or_eq_false_iff] at hblank
      exact hblank.1
    exact ⟨.name part, List.mem_cons_self, fun _ => d.allBlank_quote hpart⟩

theorem isWritten_iff {column : Column} (hcheck : column.check = .ok ()) :
    column.IsWritten d ↔ column ≠ .path [] := by
  constructor
  · rintro hwritten rfl
    have htext : Text.allBlank "" = false := hwritten 0
    contradiction
  · intro hpath
    exact (inked_fragment (check_ok_iff.mp hcheck) hpath).allBlank_render

theorem parse_ne (name : String) : parse name ≠ path [] := by
  intro h
  have hparts : Text.split '.' name = [] := Column.path.inj h
  exact Text.splitAt_ne_nil _ _ (List.map_eq_nil_iff.mp hparts)

end Column

/-! ### Sides of predicates -/

namespace Condition

/-- The predicate has the column between the two fragments. -/
inductive Side : Condition → Fragment → Column → Fragment → Prop
  | compare (column : Column) (op : Comparison) (value : Value) :
      Side (compare column op value) [] column [.text op.symbol, .operand value]
  | left (left : Column) (op : Comparison) (right : Column) :
      Side (compareColumns left op right) [] left (.text op.symbol :: right.fragment)
  | right (left : Column) (op : Comparison) (right : Column) :
      Side (compareColumns left op right) (left.fragment ++ [.text op.symbol]) right []
  | missing (column : Column) (negated : Bool) :
      Side (missing column negated) [] column
        [.text (if negated then " IS NOT NULL" else " IS NULL")]
  | member (column : Column) (v : Value) (vs : List Value) (negated : Bool) :
      Side (member column (v :: vs) negated) [] column
        (.text (if negated then " NOT IN (" else " IN (") :: Fragment.ofValues (v :: vs) ++
          [.text ")"])
  | between (column : Column) (low high : Value) (negated : Bool) :
      Side (between column low high negated) [] column
        [.text (if negated then " NOT BETWEEN " else " BETWEEN "), .operand low, .text " AND ",
          .operand high]

variable {x : Condition} {front back : Fragment} {column : Column}

theorem Side.fragment_eq (h : x.Side front column back) :
    x.fragment = front ++ column.fragment ++ back := by
  cases h <;> simp [fragment, piece, Piece.close]

theorem Side.mem_columns (h : x.Side front column back) : column ∈ x.columns := by
  cases h <;> simp [columns]

theorem Side.isVoid (h : x.Side front column back) : x.fragment.isVoid = false := by
  cases h <;> exact isVoid_of_isLeaf rfl rfl

end Condition

theorem Assignment.exists_fragment_eq (a : Assignment) :
    ∃ back, a.fragment = a.column.fragment ++ .text "=" :: back := by
  cases a with
  | value column v => exact ⟨[.operand v], rfl⟩
  | verbatim column expression => exact ⟨[.text expression], rfl⟩
  | template column expression values => exact ⟨_, rfl⟩

/-- A checked column is not blank in any dialect, exactly unless it is a path without parts. That is
so on every side of a predicate, wherever the predicate stands in its condition, and for every
column that is inserted into or assigned; a column that is read from a string is no such path. -/
theorem columns_are_written_iff (d : Dialect) :
    (∀ column : Column, column.check = .ok () → (column.IsWritten d ↔ column ≠ .path [])) ∧
    (∀ c : Condition, c.check = .ok () → ∀ x ∈ c.leaves, ∀ front column back,
      x.Side front column back →
        x.fragment = front ++ column.fragment ++ back ∧ x.fragment <:+: c.fragment ∧
        (column.IsWritten d ↔ column ≠ .path [])) ∧
    (∀ (q : Insert) (s : Statement), q.build = .ok s →
      (q.targetColumns ≠ [] →
        .text " (" :: Column.listFragment q.targetColumns ++ [.text ")"] <:+: q.draft.fragment) ∧
      ∀ column ∈ q.targetColumns, (column.IsWritten d ↔ column ≠ .path [])) ∧
    (∀ (q : Update) (s : Statement), q.build = .ok s →
      .text " SET " :: Fragment.separated ", " (q.assignments.map Assignment.fragment) <:+:
        q.draft.fragment ∧
      ∀ a ∈ q.assignments, (∃ back, a.fragment = a.column.fragment ++ .text "=" :: back) ∧
        (a.column.IsWritten d ↔ a.column ≠ .path [])) ∧
    ∀ name, Column.parse name ≠ .path [] := by
  refine ⟨fun column => Column.isWritten_iff, ?_, ?_, ?_, Column.parse_ne⟩
  · intro c hcheck x hx front column back hside
    have hblank := (Condition.check_ok_iff_isSound.mp hcheck).columns x hx column hside.mem_columns
    exact ⟨hside.fragment_eq, Condition.infix_of_mem_leaves hx hside.isVoid,
      Column.isWritten_iff (Column.check_ok_iff.mpr hblank)⟩
  · intro q s hs
    have hcheck : q.check = .ok () := (Draft.build_ok_iff.mp hs).1
    refine ⟨fun hcolumns => ?_, fun column hcolumn => ?_⟩
    · show _ <:+: q.body ++ _
      grind [Insert.body]
    · exact Column.isWritten_iff ((Insert.check_ok_iff.mp hcheck).2.2.1 column hcolumn)
  · intro q s hs
    refine ⟨?_, fun a ha => ⟨a.exists_fragment_eq, Column.isWritten_iff ?_⟩⟩
    · show _ <:+: q.body ++ _
      grind [Update.body]
    · exact Column.check_ok_iff.mpr ((Update.exists_build_iff.mp ⟨s, hs⟩).items a ha).column

/-- Both sides of a comparison in a contrary, and an assignment to a column that is read. -/
theorem columns_are_written_iff_nested :
    let c := Condition.group .or [.negation (.equalColumns (.parse "t.a") (.verbatim "now()"))]
    let q := (({} : Update).table (.parse "t")).assign (.value (.parse "a") (.int 1))
    Column.IsWritten .postgres (.parse "t.a") ∧ Column.IsWritten .postgres (.verbatim "now()") ∧
      Condition.fragment (.equalColumns (.parse "t.a") (.verbatim "now()")) <:+: c.fragment ∧
      Column.IsWritten .postgres (.parse "a") ∧ ∃ s, q.build = .ok s := by
  intro c q
  obtain ⟨-, htrees, -, hupdate, hparse⟩ := columns_are_written_iff .postgres
  have hcheck : c.check = .ok () := rfl
  have hbuild : q.build = .ok (.ofFragment .generic q.draft.fragment) := rfl
  obtain ⟨-, hinfix, hleft⟩ := htrees c hcheck _ List.mem_cons_self _ _ _ (.left _ _ _)
  obtain ⟨-, -, hright⟩ := htrees c hcheck _ List.mem_cons_self _ _ _ (.right _ _ _)
  have hset := ((hupdate q _ hbuild).2 _ List.mem_cons_self).2
  exact ⟨hleft.mpr (hparse _), hright.mpr (by simp), hinfix, hset.mpr (hparse _), _, hbuild⟩

/-- A path without parts passes its check and has no text in any dialect, so that nothing stands in
front of an operator or between the parentheses of an insertion. -/
theorem pathless_columns_have_no_text :
    (Column.path []).check = .ok () ∧ (∀ d, ¬Column.IsWritten d (.path [])) ∧
      (let c := Condition.equals (.path []) (.int 1)
       c.check = .ok () ∧ c.fragment.render .postgres 0 = "=$1") ∧
      ((({} : Insert).into (.parse "t")).columns [.path []]).build =
        .ok ⟨"INSERT INTO t () VALUES (?)", [], .generic⟩ := by
  refine ⟨rfl, fun d hwritten => ?_, ⟨rfl, by decide +kernel⟩, rfl⟩
  have htext : Text.allBlank "" = false := hwritten 0
  contradiction

end QueryKit
