import QueryKit.Pool.Workbench
import QueryKit.Proofs.Fragment

/-! Storage that is used again. Whatever is done at a workbench, the idle entries of its pool are
blank and no more than the pool may keep, every sheet holds what was put on it since it was taken
out and nothing else, and a statement is built as if there were no pool. -/

namespace QueryKit

/-- It does not matter where a fragment is cut when it is written. -/
theorem Sheet.statement_write_write (d : Dialect) (f g : Fragment) :
    (((⟨⟨[], ""⟩, d⟩ : Sheet).write f).write g).statement = .ofFragment d (f ++ g) := by
  simp [write, statement, Statement.ofFragment, Fragment.render_append,
    Fragment.operands_append]

namespace Pool

variable {limit : Nat} {p : Pool}

/-- The pool may keep a number of idle entries, keeps no more, and all of them are blank. -/
structure Sound (limit : Nat) (p : Pool) : Prop where
  limit_eq : p.limit = limit
  blank : ∀ s ∈ p.idle, s.IsBlank
  bounded : p.idle.length ≤ limit

theorem Sound.giveBack (hp : p.Sound limit) (s : Storage) : (p.giveBack s).Sound limit := by
  unfold Pool.giveBack
  split
  · rename_i hroom
    refine ⟨hp.limit_eq, ?_, ?_⟩
    · intro entry hentry
      rcases List.mem_cons.mp hentry with rfl | hidle
      · exact ⟨rfl, rfl⟩
      · exact hp.blank entry hidle
    · have hlimit := hp.limit_eq
      simp only [List.length_cons]
      omega
  · exact hp

theorem Sound.acquire_eq (hp : p.Sound limit) (d : Dialect) : (p.acquire d).1 = ⟨⟨[], ""⟩, d⟩ := by
  unfold Pool.acquire
  split
  · rfl
  · rename_i s rest hidle
    have hblank := hp.blank s (by simp [hidle])
    obtain ⟨values, text⟩ := s
    obtain ⟨rfl, rfl⟩ := hblank
    rfl

theorem Sound.acquire (hp : p.Sound limit) (d : Dialect) : (p.acquire d).2.Sound limit := by
  unfold Pool.acquire
  split
  · exact hp
  · rename_i s rest hidle
    have hbounded := hp.bounded
    rw [hidle, List.length_cons] at hbounded
    refine ⟨hp.limit_eq, fun entry hentry => hp.blank entry ?_, ?_⟩
    · rw [hidle]
      exact List.mem_cons_of_mem s hentry
    · dsimp only
      omega

theorem Sound.build (hp : p.Sound limit) (draft : Draft) : (p.build draft).2.Sound limit := by
  have hacquired := hp.acquire draft.dialect
  cases hadmission : draft.admission with
  | error cause => simpa only [Pool.build, hadmission] using hp
  | ok =>
    cases hcompletion : draft.completion with
    | error cause =>
      simp only [Pool.build, hadmission, hcompletion]
      exact hacquired.giveBack _
    | ok =>
      simp only [Pool.build, hadmission, hcompletion, Pool.finish]
      exact hacquired.giveBack _

/-- Storage of the pool makes no difference to a statement. -/
theorem Sound.build_eq (hp : p.Sound limit) (draft : Draft) :
    (p.build draft).1 = draft.build := by
  have hsheet := hp.acquire_eq draft.dialect
  have hwritten := Sheet.statement_write_write draft.dialect draft.body draft.tail
  cases hadmission : draft.admission with
  | error cause =>
    simp only [Pool.build, Draft.build, hadmission]
    rfl
  | ok =>
    cases hcompletion : draft.completion with
    | error cause =>
      simp only [Pool.build, Draft.build, hadmission, hcompletion]
      rfl
    | ok =>
      simp only [Pool.build, Draft.build, hadmission, hcompletion, Pool.finish, hsheet, hwritten]
      rfl

end Pool

namespace Workbench

variable {w : Workbench} {slot other : String}

/-! ### Slots -/

/-- The slot that an action is about. -/
def Action.slot? : Action → Option String
  | .acquire slot _ | .bind slot _ | .append slot _ | .write slot _ | .condition slot _
  | .clear slot | .finish slot | .release slot => some slot
  | .build _ => none

theorem lookup_drop_self (slot : String) (slots : List (String × Sheet)) :
    (drop slot slots).lookup slot = none := by
  rw [drop, List.lookup_eq_none_iff]
  intro entry hentry
  have hne : entry.1 ≠ slot := by simpa using (List.mem_filter.mp hentry).2
  simpa using Ne.symm hne

theorem lookup_drop_ne (h : other ≠ slot) (slots : List (String × Sheet)) :
    (drop slot slots).lookup other = slots.lookup other := by
  induction slots with
  | nil => rfl
  | cons entry slots ih =>
    obtain ⟨name, s⟩ := entry
    unfold drop at ih ⊢
    by_cases hname : name = slot
    · have hne : (other == name) = false := by simpa [hname] using h
      rw [List.filter_cons_of_neg (by simpa using hname), List.lookup_cons, hne, ih]
    · rw [List.filter_cons_of_pos (by simpa using hname), List.lookup_cons, List.lookup_cons, ih]

theorem sheet?_put_self (s : Sheet) : (w.put slot s).sheet? slot = some s := by
  simp [put, sheet?]

theorem sheet?_put_ne (h : other ≠ slot) (s : Sheet) :
    (w.put slot s).sheet? other = w.sheet? other := by
  have hne : (other == slot) = false := by simpa using h
  simpa [put, sheet?, List.lookup_cons, hne] using lookup_drop_ne h w.slots

variable {f : Sheet → Sheet} {reply : Sheet → Reply}

theorem sheet?_change_self : (w.change slot f reply).2.sheet? slot = (w.sheet? slot).map f := by
  unfold change
  cases hsheet : w.sheet? slot with
  | none => exact hsheet
  | some s => exact sheet?_put_self (f s)

theorem sheet?_change_ne (h : other ≠ slot) :
    (w.change slot f reply).2.sheet? other = w.sheet? other := by
  unfold change
  cases w.sheet? slot with
  | none => rfl
  | some s => exact sheet?_put_ne h (f s)

theorem sheet?_remove_self : (w.remove slot reply).2.sheet? slot = none := by
  unfold remove
  cases hsheet : w.sheet? slot with
  | none => exact hsheet
  | some s => exact lookup_drop_self slot w.slots

theorem sheet?_remove_ne (h : other ≠ slot) :
    (w.remove slot reply).2.sheet? other = w.sheet? other := by
  unfold remove
  cases w.sheet? slot with
  | none => rfl
  | some s => exact lookup_drop_ne h w.slots

/-- What is not about a slot leaves the sheet in it alone. -/
theorem sheet?_step_of_ne {a : Action} (h : a.slot? ≠ some slot) :
    (w.step a).2.sheet? slot = w.sheet? slot := by
  cases a with
  | acquire used d => exact sheet?_put_ne (fun heq => h (congrArg some heq.symm)) _
  | bind used v => exact sheet?_change_ne fun heq => h (congrArg some heq.symm)
  | append used v => exact sheet?_change_ne fun heq => h (congrArg some heq.symm)
  | write used text => exact sheet?_change_ne fun heq => h (congrArg some heq.symm)
  | condition used c => exact sheet?_change_ne fun heq => h (congrArg some heq.symm)
  | clear used => exact sheet?_change_ne fun heq => h (congrArg some heq.symm)
  | finish used => exact sheet?_remove_ne fun heq => h (congrArg some heq.symm)
  | release used => exact sheet?_remove_ne fun heq => h (congrArg some heq.symm)
  | build draft => rfl

end Workbench

namespace Workbench

variable {limit : Nat} {w : Workbench} {slot : String}

/-! ### What a sheet holds -/

/-- A workbench at the start: nothing is idle and nothing is in use. -/
def opened (limit : Nat) : Workbench :=
  { pool := ⟨limit, []⟩ }

/-- The workbench after several actions. -/
def after (w : Workbench) (actions : List Action) : Workbench :=
  actions.foldl (fun w a => (w.step a).2) w

/-- What the sheet in a slot holds after the actions of a list, the latest one in front: what was put
on it since it was taken out, where each value has the number of those before it. Actions that are
not about the slot count for nothing, and where the sheet was given back there is none. -/
inductive Holds (slot : String) : List Action → Sheet → Prop
  | acquire (past : List Action) (d : Dialect) : Holds slot (.acquire slot d :: past) ⟨⟨[], ""⟩, d⟩
  | bind {past : List Action} {vs : List Value} {text : String} {d : Dialect} (v : Value)
      (held : Holds slot past ⟨⟨vs, text⟩, d⟩) :
      Holds slot (.bind slot v :: past) ⟨⟨vs ++ [v], text⟩, d⟩
  | append {past : List Action} {vs : List Value} {text : String} {d : Dialect} (v : Value)
      (held : Holds slot past ⟨⟨vs, text⟩, d⟩) :
      Holds slot (.append slot v :: past) ⟨⟨vs ++ [v], text ++ d.placeholder (vs.length + 1)⟩, d⟩
  | write {past : List Action} {vs : List Value} {text : String} {d : Dialect} (more : String)
      (held : Holds slot past ⟨⟨vs, text⟩, d⟩) :
      Holds slot (.write slot more :: past) ⟨⟨vs, text ++ more⟩, d⟩
  | condition {past : List Action} {vs : List Value} {text : String} {d : Dialect} (c : Condition)
      (held : Holds slot past ⟨⟨vs, text⟩, d⟩) :
      Holds slot (.condition slot c :: past)
        ⟨⟨vs ++ c.fragment.operands d, text ++ c.fragment.render d vs.length⟩, d⟩
  | clear {past : List Action} {vs : List Value} {text : String} {d : Dialect}
      (held : Holds slot past ⟨⟨vs, text⟩, d⟩) : Holds slot (.clear slot :: past) ⟨⟨[], text⟩, d⟩
  | other {past : List Action} {a : Action} {s : Sheet} (elsewhere : a.slot? ≠ some slot)
      (held : Holds slot past s) : Holds slot (a :: past) s

section History

variable {past : List Action} {s : Sheet}

theorem holds_acquire_iff {d : Dialect} :
    Holds slot (.acquire slot d :: past) s ↔ s = ⟨⟨[], ""⟩, d⟩ := by
  constructor
  · intro hholds
    cases hholds with
    | acquire => rfl
    | other elsewhere => exact absurd rfl elsewhere
  · rintro rfl
    exact .acquire past d

theorem holds_bind_iff {v : Value} :
    Holds slot (.bind slot v :: past) s ↔ ∃ old, Holds slot past old ∧ old.bind v = s := by
  constructor
  · intro hholds
    cases hholds with
    | bind _ held => exact ⟨_, held, rfl⟩
    | other elsewhere => exact absurd rfl elsewhere
  · rintro ⟨old, held, rfl⟩
    exact .bind v held

theorem holds_append_iff {v : Value} :
    Holds slot (.append slot v :: past) s ↔
      ∃ old, Holds slot past old ∧ old.write [.operand v] = s := by
  have hwrite : ∀ old : Sheet, old.write [.operand v] =
      ⟨⟨old.values ++ [v], old.text ++ old.dialect.placeholder (old.values.length + 1)⟩,
        old.dialect⟩ := by
    simp [Sheet.write, Fragment.render, Fragment.operands, Token.render, Token.operands]
  simp only [hwrite]
  constructor
  · intro hholds
    cases hholds with
    | append _ held => exact ⟨_, held, rfl⟩
    | other elsewhere => exact absurd rfl elsewhere
  · rintro ⟨old, held, rfl⟩
    exact .append v held

theorem holds_write_iff {more : String} :
    Holds slot (.write slot more :: past) s ↔
      ∃ old, Holds slot past old ∧ old.write [.text more] = s := by
  have hwrite : ∀ old : Sheet, old.write [.text more] =
      ⟨⟨old.values, old.text ++ more⟩, old.dialect⟩ := by
    simp [Sheet.write, Fragment.render, Token.render]
  simp only [hwrite]
  constructor
  · intro hholds
    cases hholds with
    | write _ held => exact ⟨_, held, rfl⟩
    | other elsewhere => exact absurd rfl elsewhere
  · rintro ⟨old, held, rfl⟩
    exact .write more held

theorem holds_condition_iff {c : Condition} :
    Holds slot (.condition slot c :: past) s ↔
      ∃ old, Holds slot past old ∧ old.write c.fragment = s := by
  constructor
  · intro hholds
    cases hholds with
    | condition _ held => exact ⟨_, held, rfl⟩
    | other elsewhere => exact absurd rfl elsewhere
  · rintro ⟨old, held, rfl⟩
    exact .condition c held

theorem holds_clear_iff :
    Holds slot (.clear slot :: past) s ↔ ∃ old, Holds slot past old ∧ old.clear = s := by
  constructor
  · intro hholds
    cases hholds with
    | clear held => exact ⟨_, held, rfl⟩
    | other elsewhere => exact absurd rfl elsewhere
  · rintro ⟨old, held, rfl⟩
    exact .clear held

theorem not_holds_finish : ¬Holds slot (.finish slot :: past) s := by
  intro hholds
  cases hholds with
  | other elsewhere => exact elsewhere rfl

theorem not_holds_release : ¬Holds slot (.release slot :: past) s := by
  intro hholds
  cases hholds with
  | other elsewhere => exact elsewhere rfl

theorem holds_iff_of_ne {a : Action} (h : a.slot? ≠ some slot) :
    Holds slot (a :: past) s ↔ Holds slot past s := by
  constructor
  · intro hholds
    cases hholds with
    | other _ held => exact held
    | _ => exact absurd rfl h
  · exact .other h

end History

/-! ### Runs -/

/-- The pool is sound, and in every slot is the sheet that the past put there, if any. -/
structure Keeps (limit : Nat) (past : List Action) (w : Workbench) : Prop where
  pool : w.pool.Sound limit
  sheets : ∀ slot s, w.sheet? slot = some s ↔ Holds slot past s

theorem keeps_opened (limit : Nat) : Keeps limit [] (opened limit) :=
  ⟨⟨rfl, nofun, Nat.zero_le _⟩, fun _ _ => ⟨nofun, nofun⟩⟩

namespace Keeps

variable {past : List Action} (hw : Keeps limit past w)
include hw

theorem sound_change (f : Sheet → Sheet) (reply : Sheet → Reply) :
    (w.change slot f reply).2.pool.Sound limit := by
  unfold change
  cases w.sheet? slot with
  | none => exact hw.pool
  | some s => exact hw.pool

theorem sound_remove (reply : Sheet → Reply) : (w.remove slot reply).2.pool.Sound limit := by
  unfold remove
  cases w.sheet? slot with
  | none => exact hw.pool
  | some s => exact hw.pool.giveBack s.toStorage

theorem sound_acquire (d : Dialect) : (w.acquire slot d).pool.Sound limit := by
  have hacquired := hw.pool.acquire d
  simp only [Workbench.acquire, put]
  cases w.sheet? slot with
  | none => exact hacquired
  | some old => exact hacquired.giveBack old.toStorage

theorem sound_step (a : Action) : (w.step a).2.pool.Sound limit := by
  cases a with
  | acquire slot d => exact hw.sound_acquire d
  | bind slot v => exact hw.sound_change _ _
  | append slot v => exact hw.sound_change _ _
  | write slot text => exact hw.sound_change _ _
  | condition slot c => exact hw.sound_change _ _
  | clear slot => exact hw.sound_change _ _
  | finish slot => exact hw.sound_remove _
  | release slot => exact hw.sound_remove _
  | build draft => exact hw.pool.build draft

theorem sheet?_acquire (slot : String) (d : Dialect) :
    (w.step (.acquire slot d)).2.sheet? slot = some ⟨⟨[], ""⟩, d⟩ :=
  (sheet?_put_self _).trans (congrArg some (hw.pool.acquire_eq d))

theorem sheet?_change_iff {f : Sheet → Sheet} {reply : Sheet → Reply} {s : Sheet} :
    (w.change slot f reply).2.sheet? slot = some s ↔ ∃ old, Holds slot past old ∧ f old = s := by
  simp only [sheet?_change_self, Option.map_eq_some_iff, hw.sheets]

theorem step (a : Action) : Keeps limit (a :: past) (w.step a).2 := by
  refine ⟨hw.sound_step a, fun slot s => ?_⟩
  by_cases h : a.slot? = some slot
  · cases a with
    | acquire used d =>
      obtain rfl : used = slot := Option.some.inj h
      rw [hw.sheet?_acquire, Option.some_inj, holds_acquire_iff, eq_comm]
    | bind used v =>
      obtain rfl : used = slot := Option.some.inj h
      exact hw.sheet?_change_iff.trans holds_bind_iff.symm
    | append used v =>
      obtain rfl : used = slot := Option.some.inj h
      exact hw.sheet?_change_iff.trans holds_append_iff.symm
    | write used more =>
      obtain rfl : used = slot := Option.some.inj h
      exact hw.sheet?_change_iff.trans holds_write_iff.symm
    | condition used c =>
      obtain rfl : used = slot := Option.some.inj h
      exact hw.sheet?_change_iff.trans holds_condition_iff.symm
    | clear used =>
      obtain rfl : used = slot := Option.some.inj h
      exact hw.sheet?_change_iff.trans holds_clear_iff.symm
    | finish used =>
      obtain rfl : used = slot := Option.some.inj h
      have hnone : (w.step (.finish used)).2.sheet? used = none := sheet?_remove_self
      simp [hnone, not_holds_finish]
    | release used =>
      obtain rfl : used = slot := Option.some.inj h
      have hnone : (w.step (.release used)).2.sheet? used = none := sheet?_remove_self
      simp [hnone, not_holds_release]
    | build draft => exact absurd h nofun
  · rw [sheet?_step_of_ne h, holds_iff_of_ne h]
    exact hw.sheets slot s

omit hw in
theorem after (hw : Keeps limit past w) (actions : List Action) :
    Keeps limit (actions.reverse ++ past) (w.after actions) := by
  -- A history has the latest action in front, so each action of the run goes in front of the past.
  induction actions generalizing w past with
  | nil => exact hw
  | cons a actions ih =>
    have hrest := ih (hw.step a)
    simpa [Workbench.after] using hrest

theorem finish_iff {st : Statement} :
    (w.step (.finish slot)).1 = .statement st ↔
      Holds slot past ⟨⟨st.operands, st.text⟩, st.dialect⟩ := by
  have hsheets := hw.sheets slot
  rw [← hsheets]
  simp only [Workbench.step, remove]
  cases w.sheet? slot with
  | none => simp
  | some s =>
    obtain ⟨⟨vs, text⟩, d⟩ := s
    obtain ⟨text', vs', d'⟩ := st
    constructor
    · rintro ⟨⟩
      rfl
    · rintro ⟨⟩
      rfl

end Keeps

/-- Whatever is done at a workbench: the idle entries are blank, and there are no more of them than
the pool may keep; a sheet is taken out blank, so that its first value has the placeholder with
number one of its dialect; every slot has exactly the sheet that its own actions put there since it
was taken out, and finishing gives the statement of that; and a build, whether it succeeds or not,
gives what it gives on storage of its own. -/
theorem used_storage_is_like_new (limit : Nat) (actions : List Action) :
    let w := (opened limit).after actions
    (∀ s ∈ w.pool.idle, s.values = [] ∧ s.text = "") ∧ w.pool.idle.length ≤ limit ∧
      (∀ slot d, let taken := (w.step (.acquire slot d)).2
        taken.sheet? slot = some ⟨⟨[], ""⟩, d⟩ ∧
          ∀ v, (taken.step (.bind slot v)).1 = .text (d.placeholder 1) ∧
            (taken.step (.append slot v)).1 = .text (d.placeholder 1)) ∧
      (∀ slot s, w.sheet? slot = some s ↔ Holds slot actions.reverse s) ∧
      (∀ slot st, (w.step (.finish slot)).1 = .statement st ↔
        Holds slot actions.reverse ⟨⟨st.operands, st.text⟩, st.dialect⟩) ∧
      ∀ draft, (w.step (.build draft)).1 = .built draft.build ∧
        ((opened limit).step (.build draft)).1 = .built draft.build := by
  intro w
  have hw : Keeps limit actions.reverse w := by
    simpa using (keeps_opened limit).after actions
  refine ⟨hw.pool.blank, hw.pool.bounded, fun slot d => ?_, hw.sheets, fun _ _ => hw.finish_iff,
    fun draft => ⟨?_, ?_⟩⟩
  · intro taken
    have hsheet : taken.sheet? slot = some ⟨⟨[], ""⟩, d⟩ := hw.sheet?_acquire slot d
    refine ⟨hsheet, fun v => ⟨?_, ?_⟩⟩
    · simp only [step, change, hsheet]
      rfl
    · simp only [step, change, hsheet]
      simp [Sheet.write, Fragment.render, Token.render]
  · exact congrArg Reply.built (hw.pool.build_eq draft)
  · exact congrArg Reply.built ((keeps_opened limit).pool.build_eq draft)

/-- Two sheets at a time and a statement that is refused after its body is written: the values are
forgotten, the text stays, and nothing comes over from the other sheet or the statement. -/
theorem used_storage_is_like_new_interleaved :
    let refused : Draft :=
      { dialect := .mysql
        admission := .ok ()
        body := [.text "INSERT", .operand (.int 1)]
        completion := .error (.returningUnsupported "mysql") }
    let actions : List Action :=
      [.acquire "a" .postgres, .append "a" (.int 7), .acquire "b" .mysql, .write "b" "x",
        .build refused, .clear "a", .release "b", .append "a" (.int 8)]
    let w := (opened 1).after actions
    (w.step (.finish "a")).1 = .statement ⟨"$1$1", [.int 8], .postgres⟩ ∧
      (w.step (.build refused)).1 = .built (.error (.build (.returningUnsupported "mysql"))) ∧
      w.pool.idle.length ≤ 1 ∧ ∀ s ∈ w.pool.idle, s.values = [] ∧ s.text = "" := by
  intro refused actions w
  obtain ⟨hblank, hbounded, -, -, hfinish, hbuild⟩ := used_storage_is_like_new 1 actions
  have hheld : Holds "a" [.acquire "a" .postgres] ⟨⟨[], ""⟩, .postgres⟩ := .acquire [] .postgres
  have happended := hheld.append (.int 7)
  have hcleared := ((((happended.other (a := .acquire "b" .mysql) (by decide)).other
    (a := .write "b" "x") (by decide)).other (a := .build refused) (by decide)).clear).other
    (a := .release "b") (by decide)
  exact ⟨(hfinish "a" _).mpr (hcleared.append (.int 8)), (hbuild refused).1, hbounded, hblank⟩

end Workbench

end QueryKit
