import Mathlib.Logic.Relation
import QueryKit.Proofs.Writer.Condition

/-! Rewriting of conditions. A group of the same kind is spliced, a part that has no text is left out,
and the whole stands in a group of its own. Wherever and however often this is done or undone, the
condition is written as before. What carries the proof are the texts that a group keeps of its parts:
each rewriting below the root leaves them as they are, and they decide on what is written. -/

namespace QueryKit

namespace Junction

variable (junction : Junction) (texts : List String)

theorem group_filter : junction.group (texts.filter (· ≠ "")) = junction.group texts := by
  simp only [group, List.filter_filter, Bool.and_self]

theorem group_singleton (text : String) : junction.group [text] = text := by
  by_cases h : text = "" <;> simp [group, h]

theorem group_eq_empty_iff : junction.group texts = "" ↔ texts.filter (· ≠ "") = [] := by
  unfold group
  split
  · rename_i hnone
    exact iff_of_true rfl hnone
  · rename_i text hone
    have htext : text ∈ texts.filter (· ≠ "") := hone ▸ List.mem_singleton_self text
    have hne : text ≠ "" := by simpa using (List.mem_filter.mp htext).2
    exact iff_of_false hne (hone ▸ List.cons_ne_nil _ _)
  · rename_i hnone _
    exact iff_of_false (by simp [String.append_eq_empty_iff]) hnone

end Junction

namespace Sheet

open Condition

variable (s : Sheet) (junction : Junction)

/-! ### Texts of their own -/

theorem append_empty : s.append "" = s := by
  simp [append]

/-- The sheet with another text. -/
def withText (text : String) : Sheet :=
  { s with text }

theorem aside_withText (write : Sheet → Sheet) (text : String) :
    (s.withText text).aside write = ((s.aside write).1, (s.aside write).2.withText text) :=
  rfl

/-- Parts of a group are written alike behind any text. -/
theorem compileParts_withText_and :
    (∀ (c : Condition) (s : Sheet) (junction : Junction) (text : String),
      (s.withText text).compileParts junction [c] =
        ((s.compileParts junction [c]).1, (s.compileParts junction [c]).2.withText text)) ∧
    ∀ (cs : List Condition) (s : Sheet) (junction : Junction) (text : String),
      (s.withText text).compileParts junction cs =
        ((s.compileParts junction cs).1, (s.compileParts junction cs).2.withText text) := by
  have hwhole {c : Condition} (hc : ∀ j cs, c ≠ .group j cs) (s : Sheet) (junction : Junction)
      (text : String) : (s.withText text).compileParts junction [c] =
        ((s.compileParts junction [c]).1, (s.compileParts junction [c]).2.withText text) := by
    rw [compileParts_whole _ junction hc, compileParts_whole s junction hc, aside_withText]
  refine tree_induction (fun c hleaf => hwhole ?_) ?_ (fun part _ => hwhole nofun) ?_ ?_
  · rintro j cs rfl
    contradiction
  · intro own parts ih s junction text
    rw [compileParts_group, ih, compileParts_group]
  · intro s junction text
    simp [compileParts]
  · intro c cs ihc ihcs s junction text
    rw [compileParts_cons, ihc, ihcs, s.compileParts_cons junction c cs]

theorem compileParts_withText (cs : List Condition) (text : String) :
    (s.withText text).compileParts junction cs =
      ((s.compileParts junction cs).1, (s.compileParts junction cs).2.withText text) :=
  compileParts_withText_and.2 cs s junction text

theorem text_compileParts (cs : List Condition) :
    (s.compileParts junction cs).2.text = s.text :=
  congrArg (fun written => written.2.text) (s.compileParts_withText junction cs s.text)

/-! ### What a group keeps -/

/-- The texts that a group keeps of its parts, and the sheet with what they bound. -/
def kept (cs : List Condition) : List String × Sheet :=
  ((s.compileParts junction cs).1.filter (· ≠ ""), (s.compileParts junction cs).2)

theorem kept_cons (c : Condition) (cs : List Condition) : s.kept junction (c :: cs) =
    ((s.kept junction [c]).1 ++ ((s.kept junction [c]).2.kept junction cs).1,
      ((s.kept junction [c]).2.kept junction cs).2) := by
  rw [kept, compileParts_cons, List.filter_append]
  rfl

theorem kept_append (cs cs' : List Condition) : s.kept junction (cs ++ cs') =
    ((s.kept junction cs).1 ++ ((s.kept junction cs).2.kept junction cs').1,
      ((s.kept junction cs).2.kept junction cs').2) := by
  induction cs generalizing s with
  | nil => simp [kept, compileParts]
  | cons c cs ih =>
    rw [List.cons_append, s.kept_cons junction c (cs ++ cs'), ih, s.kept_cons junction c cs,
      List.append_assoc]

/-- A group gives what it keeps to a group of its kind, and its text to another one. -/
theorem kept_group (own : Junction) (cs : List Condition) : s.kept junction [.group own cs] =
    (if own = junction then (s.kept own cs).1
      else [own.group (s.kept own cs).1].filter (· ≠ ""), (s.kept own cs).2) := by
  simp only [kept, compileParts_group, own.group_filter]
  split <;> rfl

theorem kept_whole {c : Condition} (hc : ∀ j cs, c ≠ .group j cs) : s.kept junction [c] =
    ([(s.aside (·.compile c)).1].filter (· ≠ ""), (s.aside (·.compile c)).2) := by
  rw [kept, compileParts_whole s junction hc]

theorem compile_group (cs : List Condition) : s.compile (.group junction cs) =
    (s.kept junction cs).2.append (junction.group (s.kept junction cs).1) := by
  rw [kept, junction.group_filter, compile]

/-- What a condition writes on a text of its own is decided by what a group keeps of it. -/
theorem aside_compile (c : Condition) : s.aside (·.compile c) =
    (junction.group (s.kept junction [c]).1, (s.kept junction [c]).2) := by
  by_cases hc : ∃ own cs, c = .group own cs
  -- A group under its own kind has no text among those that are kept, only the texts of its parts.
  · obtain ⟨own, cs, rfl⟩ := hc
    have htext : junction.group (s.kept junction [.group own cs]).1 = own.group (s.kept own cs).1 := by
      rw [kept_group]
      split
      · rename_i hown
        rw [hown]
      · rw [junction.group_filter, junction.group_singleton]
    have haside : (s.withText "").compile (.group own cs) =
        ((s.kept own cs).2.withText "").append (own.group (s.kept own cs).1) := by
      rw [compile_group, kept, compileParts_withText]
      rfl
    have hsheet : (s.kept own cs).2.withText s.text = (s.kept own cs).2 := by
      rw [← s.text_compileParts own cs]
      rfl
    have hwritten : s.aside (·.compile (.group own cs)) =
        (((s.withText "").compile (.group own cs)).text,
          ((s.withText "").compile (.group own cs)).withText s.text) := rfl
    rw [hwritten, haside, htext, kept_group]
    exact Prod.ext (String.empty_append) hsheet
  · have hwhole : ∀ j cs, c ≠ .group j cs := fun j cs h => hc ⟨j, cs, h⟩
    rw [kept_whole s junction hwhole, junction.group_filter, junction.group_singleton]

theorem aside_negation (part : Condition) : s.aside (·.compile (.negation part)) =
    (if (s.aside (·.compile part)).1 = "" then "" else "NOT (" ++ (s.aside (·.compile part)).1 ++ ")",
      (s.aside (·.compile part)).2) := by
  have hwritten : s.aside (·.compile (.negation part)) =
      (((s.withText "").compile (.negation part)).text,
        ((s.withText "").compile (.negation part)).withText s.text) := rfl
  rw [hwritten, compile, aside_withText]
  by_cases hempty : (s.aside (·.compile part)).1 = ""
  · simp only [hempty, if_true]
    rfl
  · simp only [hempty, if_false]
    exact Prod.ext String.empty_append rfl

theorem kept_of_isLeaf {c : Condition} (hleaf : c.isLeaf) : s.kept junction [c] =
    ([c.fragment.render s.dialect s.values.length].filter (· ≠ ""),
      { s with values := s.values ++ c.fragment.operands s.dialect }) := by
  have hwhole : ∀ j cs, c ≠ .group j cs := by
    rintro j cs rfl
    contradiction
  rw [kept_whole s junction hwhole, s.aside_eq fun r _ => r.compile_of_isLeaf hleaf]

/-- The text of a condition goes on with the text of the sheet. -/
theorem compile_eq_aside (c : Condition) :
    s.compile c = (s.aside (·.compile c)).2.append (s.aside (·.compile c)).1 := by
  by_cases hleaf : c.isLeaf
  · rw [s.aside_eq fun r _ => r.compile_of_isLeaf hleaf, s.compile_of_isLeaf hleaf]
    rfl
  · cases c with
    | group own cs => rw [s.aside_compile own, kept_group, if_pos rfl, compile_group]
    | negation part =>
      rw [aside_negation, compile]
      by_cases hempty : (s.aside (·.compile part)).1 = ""
      · simp only [hempty, if_true, append_empty]
      · simp only [hempty, if_false]
    | _ => exact absurd rfl hleaf

/-- What a condition writes is decided by what a group keeps of it. -/
theorem compile_eq_kept (c : Condition) : s.compile c =
    (s.kept junction [c]).2.append (junction.group (s.kept junction [c]).1) := by
  rw [compile_eq_aside, s.aside_compile junction]

theorem kept_negation (part : Condition) : s.kept junction [.negation part] =
    ([if junction.group (s.kept junction [part]).1 = "" then ""
      else "NOT (" ++ junction.group (s.kept junction [part]).1 ++ ")"].filter (· ≠ ""),
      (s.kept junction [part]).2) := by
  rw [kept_whole s junction (c := .negation part) nofun, aside_negation, s.aside_compile junction]

theorem group_kept_eq_empty_iff (cs : List Condition) :
    junction.group (s.kept junction cs).1 = "" ↔ (s.kept junction cs).1 = [] := by
  rw [kept, junction.group_filter, junction.group_eq_empty_iff]

theorem dialect_kept (cs : List Condition) : (s.kept junction cs).2.dialect = s.dialect := by
  refine (tree_induction
    (P := fun c => ∀ (s : Sheet) junction, (s.kept junction [c]).2.dialect = s.dialect)
    (Q := fun cs => ∀ (s : Sheet) junction, (s.kept junction cs).2.dialect = s.dialect)
    ?_ ?_ ?_ ?_ ?_).2 cs s junction
  · intro c hleaf s junction
    rw [kept_of_isLeaf s junction hleaf]
  · intro own parts ih s junction
    rw [kept_group]
    exact ih s own
  · intro part ih s junction
    rw [kept_negation]
    exact ih s junction
  · intro s junction
    simp [kept, compileParts]
  · intro c cs ihc ihcs s junction
    rw [kept_cons]
    exact (ihcs _ junction).trans (ihc s junction)

end Sheet

/-! ### Conditions without a text -/

namespace Condition

variable {d : Dialect}

/-- A group in the dialect keeps nothing of the conditions, which bind nothing. -/
def Silent (d : Dialect) (cs : List Condition) : Prop :=
  ∀ (s : Sheet) (junction : Junction), s.dialect = d → s.kept junction cs = ([], s)

/-- A group in the dialect keeps a text of the conditions, whatever was bound before. -/
def Speaks (d : Dialect) (cs : List Condition) : Prop :=
  ∀ (s : Sheet) (junction : Junction), s.dialect = d → (s.kept junction cs).1 ≠ []

theorem silent_of_isLeaf {c : Condition} (hleaf : c.isLeaf)
    (hrender : ∀ bound, c.fragment.render d bound = "") (hoperands : c.fragment.operands d = []) :
    Silent d [c] := by
  rintro s junction rfl
  rw [s.kept_of_isLeaf junction hleaf, hrender, hoperands, List.append_nil]
  rfl

theorem speaks_of_isLeaf {c : Condition} (hleaf : c.isLeaf)
    (hrender : ∀ bound, c.fragment.render d bound ≠ "") : Speaks d [c] := by
  rintro s junction rfl
  rw [s.kept_of_isLeaf junction hleaf]
  simp [hrender]

theorem silent_or_speaks_of_render {c : Condition} (hleaf : c.isLeaf) {text : String}
    (hrender : ∀ bound, c.fragment.render d bound = text) (hoperands : c.fragment.operands d = []) :
    Silent d [c] ∨ Speaks d [c] := by
  by_cases htext : text = ""
  · exact .inl (silent_of_isLeaf hleaf (fun bound => (hrender bound).trans htext) hoperands)
  · exact .inr (speaks_of_isLeaf hleaf fun bound => (hrender bound).trans_ne htext)

/-- In a dialect with placeholders, a condition that has no text somewhere never has one. -/
theorem silent_or_speaks (hd : d.HasPlaceholders) :
    (∀ c, Silent d [c] ∨ Speaks d [c]) ∧ ∀ cs, Silent d cs ∨ Speaks d cs := by
  refine tree_induction ?_ ?_ ?_ (.inl fun s junction _ => ?_) ?_
  · intro c hleaf
    rcases clear_leaf hd hleaf with (hvoid | hrender) | hnever | halways
    · exact .inl (silent_of_isLeaf hleaf (fun _ => Fragment.render_of_isVoid hvoid)
        (Fragment.operands_of_isVoid hvoid))
    · exact .inr (speaks_of_isLeaf hleaf hrender)
    · have hrender (bound : Nat) : c.fragment.render d bound = d.never := by
        simp [hnever, Fragment.render, Token.render]
      exact silent_or_speaks_of_render hleaf hrender (by rw [hnever]; rfl)
    · have hrender (bound : Nat) : c.fragment.render d bound = d.always := by
        simp [halways, Fragment.render, Token.render]
      exact silent_or_speaks_of_render hleaf hrender (by rw [halways]; rfl)
  · rintro own parts (hsilent | hspeaks)
    · left
      intro s junction hs
      rw [Sheet.kept_group, hsilent s own hs]
      split <;> rfl
    · right
      intro s junction hs
      have htext := mt (s.group_kept_eq_empty_iff own parts).mp (hspeaks s own hs)
      rw [Sheet.kept_group]
      split
      · exact hspeaks s own hs
      · simp [htext]
  · rintro part (hsilent | hspeaks)
    · left
      intro s junction hs
      rw [Sheet.kept_negation, hsilent s junction hs]
      rfl
    · right
      intro s junction hs
      have htext := mt (s.group_kept_eq_empty_iff junction [part]).mp (hspeaks s junction hs)
      rw [Sheet.kept_negation, if_neg htext]
      simp [String.append_eq_empty_iff]
  · simp [Sheet.kept, Sheet.compileParts]
  · rintro c cs (hc | hc) (hcs | hcs)
    · left
      intro s junction hs
      rw [Sheet.kept_cons, hc s junction hs, hcs s junction hs]
      rfl
    · right
      intro s junction hs
      rw [Sheet.kept_cons, hc s junction hs]
      exact hcs s junction hs
    all_goals
      right
      intro s junction hs
      rw [Sheet.kept_cons]
      exact List.append_ne_nil_of_left_ne_nil (hc s junction hs) _

/-- A condition that has no text behind some values is silent. -/
theorem silent_of_compile (hd : d.HasPlaceholders) {c : Condition} {values : List Value}
    (hempty : (({ values, dialect := d } : Sheet).compile c).text = "") : Silent d [c] := by
  refine ((silent_or_speaks hd).1 c).resolve_right fun hspeaks => ?_
  have htext := mt (Sheet.group_kept_eq_empty_iff { values, dialect := d } .and [c]).mp
    (hspeaks { values, dialect := d } .and rfl)
  rw [Sheet.compile_eq_kept _ .and] at hempty
  simp only [Sheet.append, String.append_eq_empty_iff] at hempty
  exact htext hempty.2

/-! ### Rewriting -/

/-- One rewriting below the root in a dialect. -/
inductive Rewrites (d : Dialect) : Condition → Condition → Prop
  | splice (junction : Junction) (front inner back : List Condition) :
      Rewrites d (group junction (front ++ group junction inner :: back))
        (group junction (front ++ inner ++ back))
  | drop (junction : Junction) (front back : List Condition) {part : Condition}
      (values : List Value) (empty : (({ values, dialect := d } : Sheet).compile part).text = "") :
      Rewrites d (group junction (front ++ part :: back)) (group junction (front ++ back))
  | inside (junction : Junction) (front back : List Condition) {c c' : Condition}
      (below : Rewrites d c c') :
      Rewrites d (group junction (front ++ c :: back)) (group junction (front ++ c' :: back))
  | contrary {c c' : Condition} (below : Rewrites d c c') : Rewrites d (negation c) (negation c')

/-- One rewriting of a whole condition. -/
inductive RewritesWhole (d : Dialect) : Condition → Condition → Prop
  | step {c c' : Condition} (below : Rewrites d c c') : RewritesWhole d c c'
  | wrap (junction : Junction) (c : Condition) : RewritesWhole d c (group junction [c])

/-- A rewriting below the root leaves what a group keeps of the condition. -/
theorem Rewrites.kept_eq (hd : d.HasPlaceholders) {c c' : Condition} (h : Rewrites d c c')
    {s : Sheet} (hs : s.dialect = d) (junction : Junction) :
    s.kept junction [c] = s.kept junction [c'] := by
  induction h generalizing s junction with
  | splice own front inner back =>
    have hinner : ∀ r : Sheet, r.kept own [group own inner] = r.kept own inner := fun r => by
      rw [Sheet.kept_group, if_pos rfl]
    rw [Sheet.kept_group, Sheet.kept_group, Sheet.kept_append, Sheet.kept_cons, hinner,
      ← Sheet.kept_append, ← Sheet.kept_append, List.append_assoc]
  | @drop own front back part values empty =>
    have hpart := silent_of_compile hd empty (s.kept own front).2 own
      ((s.dialect_kept own front).trans hs)
    rw [Sheet.kept_group, Sheet.kept_group, Sheet.kept_append, Sheet.kept_cons, hpart,
      s.kept_append own front back, List.nil_append]
  | inside own front back _ ih =>
    have hpart := ih ((s.dialect_kept own front).trans hs) own
    rw [Sheet.kept_group, Sheet.kept_group, Sheet.kept_append, Sheet.kept_cons, hpart,
      ← Sheet.kept_cons, ← Sheet.kept_append]
  | contrary _ ih => rw [Sheet.kept_negation, Sheet.kept_negation, ih hs junction]

end Condition

namespace Sheet

open Condition

variable {s : Sheet} {c c' : Condition}

/-- The only part of a group is written as it stands alone. -/
theorem compile_group_singleton (s : Sheet) (junction : Junction) (c : Condition) :
    s.compile (group junction [c]) = s.compile c := by
  rw [compile_group, ← compile_eq_kept]

theorem compile_of_rewritesWhole (hd : s.dialect.HasPlaceholders)
    (h : RewritesWhole s.dialect c c') : s.compile c = s.compile c' := by
  cases h with
  | step below => rw [s.compile_eq_kept .and, below.kept_eq hd rfl, ← s.compile_eq_kept]
  | wrap junction c => exact (s.compile_group_singleton junction c).symm

/-- Conditions are written alike after any number of rewritings, in either direction, and several
conditions as the group of them. In a dialect with placeholders and constant predicates, what is
written are the tokens of the conditions. -/
theorem rewritten_conditions_compile_alike :
    (∀ s : Sheet, s.dialect.HasPlaceholders → ∀ c c',
      Relation.EqvGen (RewritesWhole s.dialect) c c' → s.compile c = s.compile c') ∧
    (∀ (s : Sheet) (cs : List Condition), s.compileAll cs = s.compile (group .and cs)) ∧
    ∀ s : Sheet, s.dialect.Visible →
      (∀ c, s.compile c = s.write c.fragment) ∧
        ∀ cs, s.compileAll cs = s.write (fragmentAll cs) := by
  refine ⟨fun s hd c c' h => ?_, fun s cs => ?_, fun s hd => ⟨compile_eq hd, compileAll_eq hd⟩⟩
  · induction h with
    | rel c c' h => exact compile_of_rewritesWhole hd h
    | refl c => rfl
    | symm c c' _ ih => exact ih.symm
    | trans c c' c'' _ _ ih ih' => exact ih.trans ih'
  · rw [compile, compileAll]

/-- Nested, with parts that have no text, and in a group of another kind, behind a bound value. -/
theorem rewritten_conditions_compile_alike_nested :
    let a := Condition.equals (.named "a") (.int 1)
    let b := Condition.equals (.named "b") (.int 2)
    let nested := Condition.group .and
      [a, .group .and [b, .group .or []], .negation (.group .and [.verbatim " "])]
    let s : Sheet := { values := [.null], dialect := .postgres }
    Relation.EqvGen (RewritesWhole .postgres) nested (.group .or [.group .and [a, b]]) ∧
      s.compile nested = s.compile (.group .or [.group .and [a, b]]) ∧
      (s.compile nested).text = "(\"a\"=$2 AND \"b\"=$3)" ∧
      (s.compile nested).values = [.null, .int 1, .int 2] ∧
      s.compileAll [nested] = s.compile (.group .and [nested]) ∧
      s.compileAll [nested] = s.write (fragmentAll [nested]) := by
  intro a b nested s
  have hd : Dialect.postgres.Visible := Dialect.visible_of_mem_builtins (by simp [Dialect.builtins])
  have hcontrary : RewritesWhole .postgres nested (.group .and [a, .group .and [b, .group .or []]]) :=
    .step (.drop .and [a, .group .and [b, .group .or []]] [] [] (by decide +kernel))
  have hnone : RewritesWhole .postgres (.group .and [a, .group .and [b, .group .or []]])
      (.group .and [a, .group .and [b]]) :=
    .step (.inside .and [a] [] (.drop .and [b] [] [] (by decide +kernel)))
  have hsplice : RewritesWhole .postgres (.group .and [a, .group .and [b]]) (.group .and [a, b]) :=
    .step (.splice .and [a] [b] [])
  have hrewritten := Relation.EqvGen.rel _ _ hcontrary |>.trans _ _ _ <|
    Relation.EqvGen.rel _ _ hnone |>.trans _ _ _ <| Relation.EqvGen.rel _ _ hsplice |>.trans _ _ _ <|
    Relation.EqvGen.rel _ _ (.wrap .or _)
  obtain ⟨halike, hall, htokens⟩ := rewritten_conditions_compile_alike
  have hvalues : (s.compile nested).values = [.null, .int 1, .int 2] := by
    rw [(htokens s hd).1]
    rfl
  exact ⟨hrewritten, halike s hd.placeholders _ _ hrewritten, by decide +kernel, hvalues,
    hall s [nested], (htokens s hd).2 [nested]⟩

end Sheet

end QueryKit
