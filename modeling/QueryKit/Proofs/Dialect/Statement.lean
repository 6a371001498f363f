import QueryKit.Proofs.Data.Statement
import QueryKit.Proofs.Dialect.Signs
import QueryKit.Proofs.Writer.Statement

/-! One statement in several dialects. The dialects write the same signs and bind the same operands,
save for the order of the two numbers of a page, and a statement that one of them builds is refused
by another one only for a feature that the other one lacks. -/

namespace QueryKit

open Check

/-! ### What a dialect may refuse -/

namespace Assembler

/-- The columns of changed rows that are asked for. -/
def returned : Assembler → List Column
  | select _ => []
  | insert q => q.returned
  | update q => q.returned
  | delete q => q.returned

/-- The verb of a statement with a limit on changed rows. -/
def limited? : Assembler → Option String
  | select _ | insert _ => none
  | update q => q.limit.map fun _ => "UPDATE"
  | delete q => q.limit.map fun _ => "DELETE"

/-- The statement asks for something that the dialect does not have. -/
inductive Lacks (d : Dialect) (a : Assembler) : BuildError → Prop
  | limit {verb : String} (asked : a.limited? = some verb) (paging : d.offsetFetch = true) :
      Lacks d a (.limitUnsupported verb d.name)
  | returning (asked : a.returned ≠ []) (unsupported : d.returning = false) :
      Lacks d a (.returningUnsupported d.name)

/-- The checks that have nothing to do with a dialect. -/
def check : Assembler → Except BuildError Unit
  | select q => q.check
  | insert q => q.check
  | update q => q.check
  | delete q => q.check

def checkLimited (d : Dialect) : Option String → Except BuildError Unit
  | none => .ok ()
  | some verb => if d.offsetFetch then .error (.limitUnsupported verb d.name) else .ok ()

/-- The checks of what the dialect has. -/
def checkFeatures (d : Dialect) (a : Assembler) : Except BuildError Unit := do
  checkLimited d a.limited?
  checkReturning d a.returned

variable {d d' : Dialect} {a : Assembler} {e : BuildError}

theorem checkFeatures_ok (h : a.checkFeatures d = .ok ()) : ¬Lacks d a e := by
  obtain ⟨_, hlimited, hreturning⟩ := bind_ok_iff.mp h
  rintro (⟨asked, paging⟩ | ⟨asked, unsupported⟩)
  · simp [checkLimited, asked, paging] at hlimited
  · simp [checkReturning, asked, unsupported] at hreturning

theorem checkFeatures_error (h : a.checkFeatures d = .error e) : Lacks d a e := by
  rcases then_error_iff.mp h with hlimited | ⟨-, hreturning⟩
  · unfold checkLimited at hlimited
    split at hlimited
    · contradiction
    · rename_i verb asked
      by_cases paging : d.offsetFetch = true
      · simp only [paging, if_true, Except.error.injEq] at hlimited
        exact hlimited ▸ .limit asked paging
      · simp [paging] at hlimited
  · unfold checkReturning at hreturning
    split at hreturning
    · contradiction
    · rename_i hlacking
      simp only [Bool.or_eq_true, List.isEmpty_iff, not_or, Bool.not_eq_true] at hlacking
      exact Except.error.inj hreturning ▸ .returning hlacking.1 hlacking.2

theorem checkLimit_eq (verb : String) (d : Dialect) (limit : Option UInt64) :
    checkLimit verb d limit = checkLimited d (limit.map fun _ => verb) := by
  cases limit with
  | none => rfl
  | some n => by_cases h : d.offsetFetch <;> simp [checkLimit, checkLimited, h]

/-! ### One statement in a dialect -/

/-- In a dialect a statement is checked, then for what the dialect has, and then written. -/
theorem build_withDialect (a : Assembler) (d : Dialect) :
    (a.withDialect d).build = (do
      a.check.mapError .build
      (a.checkFeatures d).mapError .build
      pure (.ofFragment d a.draft.fragment)) := by
  cases a with
  | select q => rfl
  | insert q => rfl
  | update q =>
    rw [checkFeatures, limited?, ← checkLimit_eq]
    exact mapError_then_comm Error.build q.check (checkLimit "UPDATE" d q.limit)
      (checkReturning d q.returned) _
  | delete q =>
    rw [checkFeatures, limited?, ← checkLimit_eq]
    exact mapError_then_comm Error.build q.check (checkLimit "DELETE" d q.limit)
      (checkReturning d q.returned) _

theorem build_withDialect_ok_iff {s : Statement} :
    (a.withDialect d).build = .ok s ↔ a.check = .ok () ∧ a.checkFeatures d = .ok () ∧
      s = .ofFragment d a.draft.fragment := by
  rw [build_withDialect, eq_comm (a := s)]
  simp [mapError_ok_iff, pure, Except.pure]

theorem build_withDialect_error {e : Error} (hcheck : a.check = .ok ())
    (h : (a.withDialect d).build = .error e) :
    ∃ cause, e = .build cause ∧ a.checkFeatures d = .error cause := by
  rw [build_withDialect, hcheck] at h
  cases hfeatures : a.checkFeatures d with
  | ok => simp [hfeatures, Except.mapError, bind, Except.bind, pure, Except.pure] at h
  | error cause =>
    simp only [hfeatures, Except.mapError, bind, Except.bind, Except.error.injEq] at h
    exact ⟨cause, h.symm, rfl⟩

/-- The statement is not paged, or it is a SELECT statement paged by a page. -/
inductive PagedBy : Assembler → Option Page → Prop
  | select {q : Select} {page : Option Page} (paged : q.PagedBy page) : PagedBy (select q) page
  | insert (q : Insert) : PagedBy (insert q) none
  | update (q : Update) : PagedBy (update q) none
  | delete (q : Delete) : PagedBy (delete q) none

/-- The two numbers of a page in the order of the dialect. -/
theorem operands_page (d : Dialect) (p : Page) :
    Fragment.operands d [.page p] =
      if d.offsetFetch then [.ofCount p.offset, .ofCount p.limit]
      else [.ofCount p.limit, .ofCount p.offset] := by
  by_cases h : d.offsetFetch <;> simp [Fragment.operands, Token.operands, h]

/-- The operands in a dialect: some that are the same in all of them, and the numbers of the page. -/
theorem operands_of_pagedBy {page : Option Page} (hpage : a.PagedBy page) :
    ∃ front, ∀ d s, (a.withDialect d).build = .ok s →
      s.operands = front ++ (page.map fun p => Fragment.operands d [.page p]).getD [] := by
  -- Of the data only the page knows its dialect.
  have hdata : ∀ d s, (a.withDialect d).build = .ok s → s.operands = (a.withDialect d).data := by
    intro d s h
    obtain ⟨hadmission, -, rfl⟩ := Draft.build_ok_iff.mp h
    exact Assembler.operands_draft hadmission
  cases hpage with
  | insert q => exact ⟨(insert q).data, fun d s h => (hdata d s h).trans (List.append_nil _).symm⟩
  | update q => exact ⟨(update q).data, fun d s h => (hdata d s h).trans (List.append_nil _).symm⟩
  | delete q => exact ⟨(delete q).data, fun d s h => (hdata d s h).trans (List.append_nil _).symm⟩
  | @select q _ paged =>
    have hsource : ∀ d s, ((select q).withDialect d).build = .ok s →
        s.operands = q.sourceData ++ Fragment.operands d (q.paging.getD []) := hdata
    cases paged with
    | none hnone => exact ⟨q.sourceData, fun d s h => by rw [hsource d s h, hnone]; rfl⟩
    | some p hsome => exact ⟨q.sourceData, fun d s h => by rw [hsource d s h, hsome]; rfl⟩

theorem write_withDialect {a : Assembler} {d : Dialect} (hd : d.Visible) :
    (a.withDialect d).write = (a.withDialect d).build := by
  cases a <;> exact write_eq hd

end Assembler

/-! ### Counts -/

namespace Select

variable {q : Select} {d : Dialect} {s : Statement}

theorem count_withDialect_ok_iff :
    (q.withDialect d).count = .ok s ↔ q.checkCount = .ok () ∧
      s = .ofFragment d q.countDraft.fragment := by
  have hiff := Draft.build_ok_iff (d := (q.withDialect d).countDraft) (s := s)
  refine hiff.trans ?_
  constructor
  · rintro ⟨hcheck, -, rfl⟩
    exact ⟨hcheck, rfl⟩
  · rintro ⟨hcheck, rfl⟩
    exact ⟨hcheck, rfl, rfl⟩

theorem writeCount_withDialect (hd : d.Visible) :
    (q.withDialect d).writeCount = (q.withDialect d).count :=
  writeCount_eq hd

end Select

/-- The dialects of the library have placeholders and constant predicates. In all such dialects
every statement has one list of signs: each dialect that writes the statement, leaving out what has
no text in it, writes these signs, and so it is with every count. The operands are the same in all
of them, except that dialects with different clauses for a page bind its two numbers, which come
last, in opposite orders. Of two dialects one writes the statement and the other one does not only
where the other one lacks a feature that the statement asks for; counts are written in every dialect
or in none. What is written is what is built of tokens. -/
theorem dialects_write_the_same_signs :
    (∀ d ∈ Dialect.builtins, d.Visible) ∧
    (∀ a : Assembler, ∃ signs, ∀ d s, d.Visible → (a.withDialect d).write = .ok s →
      s.dialect = d ∧ s.text = Sign.writeAll d signs) ∧
    (∀ q : Select, ∃ signs, ∀ d s, d.Visible → (q.withDialect d).writeCount = .ok s →
      s.dialect = d ∧ s.text = Sign.writeAll d signs) ∧
    (∀ (a : Assembler) (page : Option Page), a.PagedBy page → ∀ d d' s s', d.Visible → d'.Visible →
      (a.withDialect d).write = .ok s → (a.withDialect d').write = .ok s' →
        (page = none ∨ d.offsetFetch = d'.offsetFetch → s.operands = s'.operands) ∧
        (page ≠ none → d.offsetFetch ≠ d'.offsetFetch → ∃ front u v,
          s.operands = front ++ [u, v] ∧ s'.operands = front ++ [v, u])) ∧
    (∀ (q : Select) (d d' : Dialect) (s : Statement), d.Visible → d'.Visible →
      (q.withDialect d).writeCount = .ok s →
        ∃ s', (q.withDialect d').writeCount = .ok s' ∧ s'.operands = s.operands) ∧
    (∀ (a : Assembler) (d d' : Dialect) (s : Statement) (e : Error), d.Visible → d'.Visible →
      (a.withDialect d).write = .ok s → (a.withDialect d').write = .error e →
        ∃ cause, e = .build cause ∧ a.Lacks d' cause ∧ ∀ other, ¬a.Lacks d other) ∧
    ∀ d : Dialect, d.Visible →
      (∀ a : Assembler, (a.withDialect d).write = (a.withDialect d).build) ∧
        ∀ q : Select, (q.withDialect d).writeCount = (q.withDialect d).count := by
  refine ⟨fun d => Dialect.visible_of_mem_builtins,
    fun a => ⟨a.draft.fragment.signs 0, fun d s hd h => ?_⟩,
    fun q => ⟨q.countDraft.fragment.signs 0, fun d s hd h => ?_⟩,
    fun a page hpage d d' s s' hd hd' h h' => ?_, fun q d d' s hd hd' h => ?_,
    fun a d d' s e hd hd' h h' => ?_,
    fun d hd => ⟨fun a => a.write_withDialect hd, fun q => q.writeCount_withDialect hd⟩⟩
  · rw [Assembler.write_withDialect hd] at h
    obtain ⟨-, -, rfl⟩ := Assembler.build_withDialect_ok_iff.mp h
    exact ⟨rfl, (Fragment.writeAll_signs d 0 _).symm⟩
  · rw [Select.writeCount_withDialect hd] at h
    obtain ⟨-, rfl⟩ := Select.count_withDialect_ok_iff.mp h
    exact ⟨rfl, (Fragment.writeAll_signs d 0 _).symm⟩
  · rw [Assembler.write_withDialect hd] at h
    rw [Assembler.write_withDialect hd'] at h'
    obtain ⟨front, hfront⟩ := Assembler.operands_of_pagedBy hpage
    have hs := hfront d s h
    have hs' := hfront d' s' h'
    cases page with
    | none => exact ⟨fun _ => hs.trans hs'.symm, fun hne => absurd rfl hne⟩
    | some p =>
      simp only [Option.map_some, Option.getD_some, Assembler.operands_page] at hs hs'
      refine ⟨?_, fun _ hne => ?_⟩
      · rintro (hnone | heq)
        · contradiction
        · rw [hs, hs', heq]
      · cases hd : d.offsetFetch with
        | true =>
          have hd' : d'.offsetFetch = false := by simpa [hd] using hne
          exact ⟨front, _, _, by simpa [hd] using hs, by simpa [hd'] using hs'⟩
        | false =>
          have hd' : d'.offsetFetch = true := by simpa [hd] using hne
          exact ⟨front, _, _, by simpa [hd] using hs, by simpa [hd'] using hs'⟩
  · rw [Select.writeCount_withDialect hd] at h
    rw [Select.writeCount_withDialect hd']
    obtain ⟨hcheck, rfl⟩ := Select.count_withDialect_ok_iff.mp h
    exact ⟨_, Select.count_withDialect_ok_iff.mpr ⟨hcheck, rfl⟩,
      (Select.operands_countDraft hcheck).trans (Select.operands_countDraft hcheck).symm⟩
  · rw [Assembler.write_withDialect hd] at h
    rw [Assembler.write_withDialect hd'] at h'
    obtain ⟨hcheck, hfeatures, -⟩ := Assembler.build_withDialect_ok_iff.mp h
    obtain ⟨cause, rfl, hlacking⟩ := Assembler.build_withDialect_error hcheck h'
    exact ⟨cause, rfl, Assembler.checkFeatures_error hlacking,
      fun _ => Assembler.checkFeatures_ok hfeatures⟩

/-- A page whose numbers change places, behind conditions of which one is left out, the count of its
rows, and a limit on changed rows that one dialect refuses. -/
theorem dialects_write_the_same_signs_paged :
    let q : Select :=
      ((({} : Select).columns [.named "id"]).table ⟨"users", none⟩
        |>.filter (.group .or [.negation (.group .and []), .equals (.named "a") (.int 1)])
        |>.page 3 10)
    let u : Update :=
      ((({} : Update).table ⟨"users", none⟩).assign (.value (.named "a") (.int 2))).withLimit 5
    (∃ signs,
      "SELECT \"id\" FROM \"users\" WHERE \"a\"=$1 LIMIT $2 OFFSET $3" =
          Sign.writeAll .postgres signs ∧
        "SELECT [id] FROM [users] WHERE [a]=@p1 OFFSET @p2 ROWS FETCH NEXT @p3 ROWS ONLY" =
          Sign.writeAll .sqlserver signs) ∧
      (∃ signs,
        "SELECT COUNT(*) FROM \"users\" WHERE \"a\"=$1" = Sign.writeAll .postgres signs ∧
          "SELECT COUNT(*) FROM [users] WHERE [a]=@p1" = Sign.writeAll .sqlserver signs) ∧
      (∃ front m n,
        Fragment.operands .postgres q.draft.fragment = front ++ [m, n] ∧
          Fragment.operands .sqlserver q.draft.fragment = front ++ [n, m]) ∧
      (∃ s, (q.withDialect .sqlserver).writeCount = .ok s ∧ s.operands = [.int 1]) ∧
      ∃ cause, Error.build (.limitUnsupported "UPDATE" "sqlserver") = .build cause ∧
        (Assembler.update u).Lacks .sqlserver cause ∧
        ∀ other, ¬(Assembler.update u).Lacks .postgres other := by
  intro q u
  obtain ⟨hbuiltins, hsigns, hcountSigns, hoperands, hcounts, hrefused, hbuilt⟩ :=
    dialects_write_the_same_signs
  have hpostgres := hbuiltins .postgres (by simp [Dialect.builtins])
  have hsqlserver := hbuiltins .sqlserver (by simp [Dialect.builtins])
  have hpage : (Assembler.select q).PagedBy (some (.of 3 10)) := .select (.some _ rfl)
  obtain ⟨signs, hsigns⟩ := hsigns (.select q)
  obtain ⟨countSigns, hcountSigns⟩ := hcountSigns q
  -- What is written is evaluated through its tokens.
  have hselect {d : Dialect} (hd : d.Visible) :
      ((Assembler.select q).withDialect d).write = .ok (.ofFragment d q.draft.fragment) :=
    ((hbuilt d hd).1 _).trans rfl
  have hcount {d : Dialect} (hd : d.Visible) :
      (q.withDialect d).writeCount = .ok (.ofFragment d q.countDraft.fragment) :=
    ((hbuilt d hd).2 q).trans rfl
  have hupdate : ((Assembler.update u).withDialect .postgres).write =
      .ok (.ofFragment .postgres u.draft.fragment) :=
    ((hbuilt _ hpostgres).1 _).trans rfl
  have hlimit : ((Assembler.update u).withDialect .sqlserver).write =
      .error (.build (.limitUnsupported "UPDATE" "sqlserver")) :=
    ((hbuilt _ hsqlserver).1 _).trans rfl
  refine ⟨⟨signs, ?_, ?_⟩, ⟨countSigns, ?_, ?_⟩, ?_, ?_, ?_⟩
  · exact Eq.trans (by decide +kernel) (hsigns _ _ hpostgres (hselect hpostgres)).2
  · exact Eq.trans (by decide +kernel) (hsigns _ _ hsqlserver (hselect hsqlserver)).2
  · exact Eq.trans (by decide +kernel) (hcountSigns _ _ hpostgres (hcount hpostgres)).2
  · exact Eq.trans (by decide +kernel) (hcountSigns _ _ hsqlserver (hcount hsqlserver)).2
  · exact (hoperands _ _ hpage _ _ _ _ hpostgres hsqlserver (hselect hpostgres)
      (hselect hsqlserver)).2 (by simp) (by decide)
  · exact hcounts q _ _ _ hpostgres hsqlserver (hcount hpostgres)
  · exact hrefused (.update u) _ _ _ _ hpostgres hsqlserver hupdate hlimit

end QueryKit
