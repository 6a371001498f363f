import QueryKit.Proofs.Blank
import QueryKit.Proofs.Count

/-! Comments behind statements. Some engines end a block comment at the first end mark, others count
the comments that begin inside of it. A statement writes its comment without any end mark but the
last, so that the first kind of engine reads it to the end of the statement and no further. Begin
marks are written as they are: the other kind reads it to the end of the statement exactly if the
comment holds none. -/

namespace QueryKit

namespace Comment

/-- How an engine finds the end of a block comment. -/
inductive Rule
  /-- The first end mark ends the comment. -/
  | flat
  /-- Every begin mark inside needs an end mark of its own. -/
  | nested
deriving DecidableEq

/-- What stands behind a comment, read from behind its begin mark. A number of inner comments are
open. -/
def behind? (rule : Rule) (inner : Nat) : List Char → Option (List Char)
  | [] | [_] => none
  | c :: c' :: cs =>
    if c = '*' ∧ c' = '/' then
      match inner with
      | 0 => some cs
      | inner + 1 => behind? rule inner cs
    else if rule = .nested ∧ c = '/' ∧ c' = '*' then behind? rule (inner + 1) cs
    else behind? rule inner (c' :: cs)

/-- The number of inner comments that begin in a text. -/
def begun (rule : Rule) : List Char → Nat
  | [] | [_] => 0
  | c :: c' :: cs =>
    if rule = .nested ∧ c = '/' ∧ c' = '*' then begun rule cs + 1 else begun rule (c' :: cs)

/-- The text is empty, or it is one comment behind a space, which ends where the text does. -/
def EndsLast (rule : Rule) (text : String) : Prop :=
  text = "" ∨ ∃ cs, text.toList = ' ' :: '/' :: '*' :: cs ∧ behind? rule 0 cs = some []

/-! ### Marks in texts -/

section Marks

variable {x y c : Char} {cs : List Char}

theorem pair_infix_cons_iff :
    [x, y] <:+: c :: cs ↔ x = c ∧ cs.head? = some y ∨ [x, y] <:+: cs := by
  rw [List.infix_cons_iff, List.cons_prefix_cons]
  cases cs with
  | nil => simp
  | cons c' cs => simp [List.cons_prefix_cons, eq_comm]

theorem begun_eq_zero_iff {rule : Rule} :
    begun rule cs = 0 ↔ rule = .flat ∨ ¬ ['/', '*'] <:+: cs := by
  cases rule with
  | flat => fun_induction begun .flat cs <;> simp_all
  | nested =>
    fun_induction begun .nested cs with
    | case1 => simp
    | case2 => simp [pair_infix_cons_iff]
    | case3 c c' cs hmark ih =>
      obtain ⟨-, rfl, rfl⟩ := hmark
      simp [pair_infix_cons_iff]
    | case4 c c' cs hmark ih =>
      rw [ih, pair_infix_cons_iff (c := c)]
      simp_all [eq_comm]

/-- A text without end marks is read through. The end mark behind it ends the comment if no inner
comment is open then. -/
theorem behind?_append (rule : Rule) (inner : Nat) (h : ¬ ['*', '/'] <:+: cs) :
    behind? rule inner (cs ++ [' ', '*', '/']) =
      if inner + begun rule cs = 0 then some [] else none := by
  fun_induction begun rule cs generalizing inner with
  | case1 => cases inner <;> simp [behind?]
  | case2 c => cases inner <;> simp [behind?]
  | case3 c c' cs hmark ih =>
    obtain ⟨rfl, rfl, rfl⟩ := hmark
    simp only [pair_infix_cons_iff, not_or] at h
    have hrest := ih (inner + 1) h.2.2
    simp only [List.cons_append, behind?]
    simp [hrest]
  | case4 c c' cs hmark ih =>
    rw [pair_infix_cons_iff, not_or] at h
    have hend : ¬(c = '*' ∧ c' = '/') := by
      rintro ⟨rfl, rfl⟩
      exact h.1 ⟨rfl, rfl⟩
    rw [← ih inner h.2]
    simp only [List.cons_append, behind?, hend, hmark, if_false]

theorem head?_commentChars (cs : List Char) : (commentChars cs).head? = cs.head? := by
  fun_induction commentChars cs <;> rfl

theorem not_end_infix_commentChars (cs : List Char) : ¬ ['*', '/'] <:+: commentChars cs := by
  fun_induction commentChars cs with
  | case1 rest ih => simp [pair_infix_cons_iff, ih]
  | case2 c rest hmark ih =>
    rw [pair_infix_cons_iff, head?_commentChars]
    rintro (⟨rfl, hhead⟩ | hrest)
    · obtain ⟨rest, rfl⟩ := List.head?_eq_some_iff.mp hhead
      exact hmark _ rfl rfl
    · exact ih hrest
  | case3 => simp

theorem begin_infix_commentChars_iff (cs : List Char) :
    ['/', '*'] <:+: commentChars cs ↔ ['/', '*'] <:+: cs := by
  fun_induction commentChars cs with
  | case1 rest ih => simp [pair_infix_cons_iff, head?_commentChars, ih]
  | case2 c rest hmark ih =>
    rw [pair_infix_cons_iff, pair_infix_cons_iff, head?_commentChars, ih]
  | case3 => rfl

/-- Taking leading characters away leaves every pair that does not begin with one of them. -/
theorem pair_infix_dropWhile_iff {p : Char → Bool} (hx : p x = false) (cs : List Char) :
    [x, y] <:+: cs.dropWhile p ↔ [x, y] <:+: cs := by
  induction cs with
  | nil => rfl
  | cons c cs ih =>
    by_cases hc : p c
    · have hne : x ≠ c := by
        rintro rfl
        simp [hc] at hx
      rw [List.dropWhile_cons_of_pos hc, ih, pair_infix_cons_iff]
      simp [hne]
    · rw [List.dropWhile_cons_of_neg hc]

theorem pair_infix_trim_iff (hx : Text.isBlank x = false) (hy : Text.isBlank y = false)
    (s : String) : [x, y] <:+: (Text.trim s).toList ↔ [x, y] <:+: s.toList := by
  rw [Text.trim, String.toList_ofList, Text.trimEnd, ← List.reverse_infix, List.reverse_reverse]
  show [y, x] <:+: _ ↔ _
  rw [pair_infix_dropWhile_iff hy, ← List.reverse_infix, List.reverse_reverse]
  show [x, y] <:+: _ ↔ _
  rw [Text.trimStart, pair_infix_dropWhile_iff hx]

end Marks

/-! ### The comment that is written -/

theorem commentText_eq_empty_iff {text : String} :
    commentText (some text) = "" ↔ Text.allBlank text := by
  rw [← Text.trim_eq_empty_iff]
  unfold commentText
  by_cases hblank : Text.trim text = ""
  · simp [hblank]
  · simp [hblank, String.append_eq_empty_iff]

theorem toList_commentText {text : String} (h : Text.allBlank text = false) :
    (commentText (some text)).toList =
      ' ' :: '/' :: '*' :: (' ' :: commentChars (Text.trim text).toList ++ [' ', '*', '/']) := by
  have hblank : Text.trim text ≠ "" := by
    rw [Ne, Text.trim_eq_empty_iff, h]
    exact Bool.false_ne_true
  simp [commentText, hblank]

theorem endsLast_commentText_iff (rule : Rule) (text : String) :
    EndsLast rule (commentText (some text)) ↔ rule = .flat ∨ ¬ ['/', '*'] <:+: text.toList := by
  have htrim := pair_infix_trim_iff (x := '/') (y := '*') rfl rfl text
  cases hblank : Text.allBlank text with
  | true =>
    -- A blank text has no marks, and nothing is written.
    have hnone : ¬ ['/', '*'] <:+: text.toList := by
      rw [← htrim, Text.trim_eq_empty_iff.mpr hblank]
      simp
    simp [EndsLast, commentText_eq_empty_iff.mpr hblank, hnone]
  | false =>
    have hempty : commentText (some text) ≠ "" := by simp [commentText_eq_empty_iff, hblank]
    have hend : ¬ ['*', '/'] <:+: ' ' :: commentChars (Text.trim text).toList := by
      simp [pair_infix_cons_iff, not_end_infix_commentChars]
    have hread := behind?_append rule 0 hend
    rw [← htrim, ← begin_infix_commentChars_iff, EndsLast, toList_commentText hblank]
    simp only [hempty, false_or, List.cons.injEq, true_and, exists_eq_left', hread]
    simp [begun_eq_zero_iff, pair_infix_cons_iff, or_iff_not_imp_left]

end Comment

/-! ### Statements with a comment -/

/-- The statement with one more text behind it. -/
def Statement.before (s : Statement) (text : String) : Statement :=
  { s with text := s.text ++ text }

/-- The statement in the making without its comment. -/
def Assembler.withoutComment : Assembler → Assembler
  | select q => select { q with comment := none }
  | insert q => insert { q with comment := none }
  | update q => update { q with comment := none }
  | delete q => delete { q with comment := none }

theorem Draft.build_before {d d' : Draft} {f : Fragment} {text : String}
    (hdialect : d'.dialect = d.dialect) (hadmission : d'.admission = d.admission)
    (hcompletion : d'.completion = d.completion) (hfragment : d'.fragment = d.fragment ++ f)
    (hf : f.Writes d.dialect text) : d'.build = d.build.map (·.before text) := by
  have hstatement : Statement.ofFragment d'.dialect d'.fragment =
      (Statement.ofFragment d.dialect d.fragment).before text := by
    rw [hdialect, hfragment]
    simp only [Statement.ofFragment, Statement.before, Fragment.render_append,
      Fragment.operands_append, hf.operands_eq, hf.render_eq, List.append_nil]
  simp only [build, hadmission, hcompletion, hstatement]
  cases d.admission with
  | error e => rfl
  | ok => cases d.completion <;> rfl

theorem commentFragment_none : commentFragment none = [] :=
  rfl

theorem append_comment (body tail : Fragment) (comment : Option String) :
    body ++ (tail ++ commentFragment comment) =
      body ++ (tail ++ commentFragment none) ++ commentFragment comment := by
  rw [commentFragment_none, List.append_nil, List.append_assoc]

theorem Select.build_withComment (q : Select) (text : String) :
    (q.withComment text).build =
      ({ q with comment := none } : Select).build.map (·.before (commentText (some text))) := by
  let front := .text "SELECT " :: q.selectionFragment ++ q.sourceFragment
  let tail := q.orderingFragment ++ q.paging.getD [.window q.limit q.offset] ++
    if q.locks then [.text " FOR UPDATE"] else []
  have hbody : (q.withComment text).draft.body =
      ({ q with comment := none } : Select).draft.body ++ commentFragment (some text) :=
    append_comment front tail (some text)
  refine Draft.build_before rfl rfl rfl ?_ (writes_comment (some text))
  rw [Draft.fragment, Draft.fragment, hbody]
  simp [draft]

theorem Select.count_withComment (q : Select) (text : String) :
    (q.withComment text).count =
      ({ q with comment := none } : Select).count.map (·.before (commentText (some text))) := by
  have hbody : (q.withComment text).countDraft.body =
      ({ q with comment := none } : Select).countDraft.body ++ commentFragment (some text) := by
    simp only [countDraft, withComment, commentFragment_none, List.append_nil]
    rfl
  refine Draft.build_before rfl rfl rfl ?_ (writes_comment (some text))
  rw [Draft.fragment, Draft.fragment, hbody]
  simp [countDraft]

theorem Assembler.build_withComment (a : Assembler) (text : String) :
    (a.withComment text).build =
      a.withoutComment.build.map (·.before (commentText (some text))) := by
  cases a with
  | select q => exact q.build_withComment text
  | insert q => exact Draft.build_before rfl rfl rfl (append_comment _ _ _) (writes_comment _)
  | update q => exact Draft.build_before rfl rfl rfl (append_comment _ _ _) (writes_comment _)
  | delete q => exact Draft.build_before rfl rfl rfl (append_comment _ _ _) (writes_comment _)

/-- Whatever a statement is built of, its comment is one more text behind it, also behind the
statement that counts its rows, and nothing if the comment is blank. Engines that end a comment at
the first end mark always read it to the last two characters of the statement. Engines that count
begin marks do so exactly if the comment holds none. -/
theorem comments_end_where_statements_do_iff (a : Assembler) (text : String) :
    let written := commentText (some text)
    (a.withComment text).build = a.withoutComment.build.map (·.before written) ∧
    (∀ q : Select, (q.withComment text).count =
      ({ q with comment := none } : Select).count.map (·.before written)) ∧
    (written = "" ↔ Text.allBlank text) ∧
    ∀ rule, Comment.EndsLast rule written ↔ rule = .flat ∨ ¬ ['/', '*'] <:+: text.toList :=
  ⟨a.build_withComment text, fun q => q.count_withComment text, Comment.commentText_eq_empty_iff,
    fun rule => Comment.endsLast_commentText_iff rule text⟩

/-- The begin mark in the comment waits for an end mark of its own, which never comes. -/
theorem begin_marks_leave_comments_open :
    let q : Delete := { dialect := some .postgres, tables := [⟨"t", none⟩] }
    ((q.withComment "a /* b").build.toOption.map Statement.text) =
        some "DELETE FROM \"t\" /* a /* b */" ∧
      Comment.behind? .nested 0 " a /* b */".toList = none ∧
      ¬ Comment.EndsLast .nested (commentText (some "a /* b")) := by
  refine ⟨by decide +kernel, by decide, ?_⟩
  rw [Comment.endsLast_commentText_iff]
  decide

end QueryKit
