import QueryKit.Assembler
import Mathlib.Data.List.Forall2

/-! When checks pass. A sequence of checks passes if each of them does, and a draft is built if both
of its checks pass; what is built is then the statement of its fragment. -/

namespace QueryKit

namespace Check

variable {ε ε' α β : Type}

@[simp] theorem bind_ok_iff {x : Except ε α} {f : α → Except ε β} {b : β} :
    x >>= f = .ok b ↔ ∃ a, x = .ok a ∧ f a = .ok b := by
  cases x with
  | error e => simp [bind, Except.bind]
  | ok a => simp [bind, Except.bind]

@[simp] theorem exists_unit_ok_iff {x : Except ε Unit} : (∃ u, x = .ok u) ↔ x = .ok () := by
  constructor
  · rintro ⟨⟨⟩, h⟩
    exact h
  · exact fun h => ⟨(), h⟩

theorem mapError_ok_iff {x : Except ε α} {f : ε → ε'} {a : α} :
    x.mapError f = .ok a ↔ x = .ok a := by
  cases x with
  | error e => exact ⟨nofun, nofun⟩
  | ok b =>
    constructor
    · rintro ⟨⟩
      rfl
    · rintro ⟨⟩
      rfl

theorem mapError_error_iff {x : Except ε α} {f : ε → ε'} {e' : ε'} :
    x.mapError f = .error e' ↔ ∃ e, x = .error e ∧ e' = f e := by
  cases x with
  | error e => simp [Except.mapError, eq_comm]
  | ok a => simp [Except.mapError]

theorem map_error_iff {x : Except ε α} {f : α → β} {e : ε} :
    x.map f = .error e ↔ x = .error e := by
  cases x <;> simp [Except.map]

theorem exists_map_ok_iff {x : Except ε α} {f : α → β} :
    (∃ b, x.map f = .ok b) ↔ ∃ a, x = .ok a := by
  cases x <;> simp [Except.map]

@[simp] theorem throw_bind_eq (e : ε) (f : α → Except ε β) : (throw e >>= f) = throw e :=
  rfl

/-- What stands behind a guard passes if the guard is down. -/
@[simp] theorem guard_ok_iff {p : Prop} [Decidable p] {e : ε} {x : Except ε β} {b : β} :
    (if p then throw e else x) = .ok b ↔ ¬p ∧ x = .ok b := by
  by_cases h : p <;> simp [h, throw, throwThe, MonadExceptOf.throw]

theorem bind_error_iff {x : Except ε α} {f : α → Except ε β} {e : ε} :
    x >>= f = .error e ↔ x = .error e ∨ ∃ a, x = .ok a ∧ f a = .error e := by
  cases x with
  | error e' => simp [bind, Except.bind]
  | ok a => simp [bind, Except.bind]

/-- A sequence of two checks fails in the first one, or in the second one. -/
theorem then_error_iff {x y : Except ε Unit} {e : ε} :
    (do x; y) = .error e ↔ x = .error e ∨ x = .ok () ∧ y = .error e := by
  cases x with
  | error e' => simp [bind, Except.bind]
  | ok => simp [bind, Except.bind]

/-- Two checks may be told their error together or one by one. -/
theorem mapError_then (f : ε → ε') (x y : Except ε Unit) (rest : Except ε' α) :
    (do (do x; y : Except ε Unit).mapError f; rest) = (do x.mapError f; y.mapError f; rest) := by
  cases x <;> rfl

/-- It does not matter where a sequence of checks is cut in two. -/
theorem mapError_then_comm (f : ε → ε') (x y z : Except ε Unit)
    (rest : Except ε' α) :
    (do (do x; y : Except ε Unit).mapError f; z.mapError f; rest) =
      (do x.mapError f; (do y; z : Except ε Unit).mapError f; rest) := by
  rw [mapError_then, mapError_then]

theorem forM_ok_iff {xs : List α} {f : α → Except ε Unit} :
    xs.forM f = .ok () ↔ ∀ x ∈ xs, f x = .ok () := by
  induction xs with
  | nil => simp [pure, Except.pure]
  | cons x xs ih =>
    simp only [List.forM_eq_forM, List.forM_cons, bind_ok_iff, exists_and_right,
      exists_unit_ok_iff, List.forall_mem_cons] at ih ⊢
    rw [ih]

theorem exists_forall₂_iff {R : α → β → Prop} {xs : List α} :
    (∃ ys, List.Forall₂ R xs ys) ↔ ∀ x ∈ xs, ∃ y, R x y := by
  induction xs with
  | nil => simp
  | cons x xs ih =>
    rw [List.forall_mem_cons, ← ih]
    constructor
    · rintro ⟨_, _ | ⟨hy, hys⟩⟩
      exact ⟨⟨_, hy⟩, _, hys⟩
    · rintro ⟨⟨y, hy⟩, ys, hys⟩
      exact ⟨y :: ys, .cons hy hys⟩

theorem mapM_congr {f g : α → Except ε β} {xs : List α} (h : ∀ x ∈ xs, f x = g x) :
    xs.mapM f = xs.mapM g := by
  induction xs with
  | nil => rfl
  | cons x xs ih =>
    obtain ⟨hx, hxs⟩ := List.forall_mem_cons.mp h
    rw [List.mapM_cons, List.mapM_cons, hx, ih hxs]

/-- A traversal succeeds if each of its steps does. -/
theorem mapM_ok_iff {f : α → Except ε β} {xs : List α} {ys : List β} :
    xs.mapM f = .ok ys ↔ List.Forall₂ (fun x y => f x = .ok y) xs ys := by
  induction xs generalizing ys with
  | nil => cases ys <;> simp [pure, Except.pure]
  | cons x xs ih =>
    rw [List.mapM_cons]
    simp only [bind_ok_iff, ih, pure, Except.pure, Except.ok.injEq]
    constructor
    · rintro ⟨y, hy, ys, hys, rfl⟩
      exact .cons hy hys
    · rintro (_ | ⟨hy, hys⟩)
      exact ⟨_, hy, _, hys, rfl⟩

/-- The same for steps that may have no result. -/
theorem mapM_eq_some_iff {f : α → Option β} {xs : List α} {ys : List β} :
    xs.mapM f = some ys ↔ List.Forall₂ (fun x y => f x = some y) xs ys := by
  induction xs generalizing ys with
  | nil => cases ys <;> simp
  | cons x xs ih =>
    simp only [List.mapM_cons, Option.bind_eq_bind, Option.bind_eq_some_iff, ih, Option.pure_def,
      Option.some.injEq]
    constructor
    · rintro ⟨y, hy, ys, hys, rfl⟩
      exact .cons hy hys
    · rintro (_ | ⟨hy, hys⟩)
      exact ⟨_, hy, _, hys, rfl⟩

/-- A traversal fails with the error of its first step that does. -/
theorem mapM_error_iff {f : α → Except ε β} {xs : List α} {e : ε} :
    xs.mapM f = .error e ↔ ∃ front x back, xs = front ++ x :: back ∧
      (∀ w ∈ front, ∃ y, f w = .ok y) ∧ f x = .error e := by
  induction xs with
  | nil => simp [pure, Except.pure]
  | cons x xs ih =>
    rw [List.mapM_cons]
    cases hx : f x with
    | error e' =>
      simp only [bind, Except.bind, Except.error.injEq]
      constructor
      · rintro rfl
        exact ⟨[], x, xs, rfl, nofun, hx⟩
      · rintro ⟨front, w, back, hsplit, hfront, hw⟩
        cases front with
        | nil =>
          obtain ⟨rfl, rfl⟩ := List.cons.inj hsplit
          exact Except.error.inj (hx.symm.trans hw)
        | cons v front =>
          obtain ⟨rfl, rfl⟩ := List.cons.inj hsplit
          obtain ⟨y, hy⟩ := hfront x List.mem_cons_self
          rw [hx] at hy
          contradiction
    | ok y =>
      have hrest : (do let ys ← xs.mapM f; pure (y :: ys) : Except ε (List β)) = .error e ↔
          xs.mapM f = .error e := by
        cases xs.mapM f with
        | error e' => simp [bind, Except.bind]
        | ok ys => simp [bind, Except.bind, pure, Except.pure]
      refine hrest.trans (ih.trans ?_)
      constructor
      · rintro ⟨front, w, back, rfl, hfront, hw⟩
        exact ⟨x :: front, w, back, rfl, List.forall_mem_cons.mpr ⟨⟨y, hx⟩, hfront⟩, hw⟩
      · rintro ⟨front, w, back, hsplit, hfront, hw⟩
        cases front with
        | nil =>
          obtain ⟨rfl, rfl⟩ := List.cons.inj hsplit
          rw [hx] at hw
          contradiction
        | cons v front =>
          obtain ⟨rfl, rfl⟩ := List.cons.inj hsplit
          exact ⟨front, w, back, rfl, (List.forall_mem_cons.mp hfront).2, hw⟩

/-- The same by places: every step in front of the one that fails succeeds. -/
theorem mapM_error_iff_getElem? {f : α → Except ε β} {xs : List α} {e : ε} :
    xs.mapM f = .error e ↔ ∃ (i : Nat) (x : α), xs[i]? = some x ∧ f x = .error e ∧
      ∀ k < i, ∀ w, xs[k]? = some w → ∃ y, f w = .ok y := by
  rw [mapM_error_iff]
  constructor
  · rintro ⟨front, x, back, rfl, hfront, hx⟩
    refine ⟨front.length, x, by simp, hx, fun k hk w hw => hfront w ?_⟩
    rw [List.getElem?_append_left hk] at hw
    exact List.mem_of_getElem? hw
  · rintro ⟨i, x, hi, hx, hfront⟩
    obtain ⟨hlt, rfl⟩ := List.getElem?_eq_some_iff.mp hi
    refine ⟨xs.take i, xs[i], xs.drop (i + 1), by simp, fun w hw => ?_, hx⟩
    obtain ⟨k, hk, rfl⟩ := List.mem_take_iff_getElem.mp hw
    exact hfront k (by omega) _ (List.getElem?_eq_getElem _)

end Check

open Check

theorem Draft.build_ok_iff {d : Draft} {s : Statement} :
    d.build = .ok s ↔
      d.admission = .ok () ∧ d.completion = .ok () ∧ s = .ofFragment d.dialect d.fragment := by
  rw [eq_comm (a := s)]
  simp [Draft.build, mapError_ok_iff, pure, Except.pure]

theorem Column.check_ok_iff {column : Column} : column.check = .ok () ↔ column.isBlank = false := by
  by_cases h : column.isBlank <;> simp [check, h]

theorem checkLimit_ok_iff {verb : String} {d : Dialect} {limit : Option UInt64} :
    checkLimit verb d limit = .ok () ↔ limit = none ∨ d.offsetFetch = false := by
  cases limit <;> cases h : d.offsetFetch <;> simp [checkLimit, h]

theorem checkReturning_ok_iff {d : Dialect} {columns : List Column} :
    checkReturning d columns = .ok () ↔ columns = [] ∨ d.returning = true := by
  cases columns <;> cases h : d.returning <;> simp [checkReturning, h]

theorem Condition.checkTemplate_ok_iff {text : String} {values : List Value} :
    checkTemplate text values = .ok () ↔ text.toList.count '?' = values.length := by
  simp [checkTemplate]

theorem Condition.checkAll_ok_iff {cs : List Condition} :
    checkAll cs = .ok () ↔ ∀ c ∈ cs, c.check = .ok () := by
  induction cs with
  | nil => simp [checkAll]
  | cons c cs ih => simp [checkAll, ih]

theorem Join.checkAll_ok_iff {js : List Join} :
    checkAll js = .ok () ↔ ∀ j ∈ js, Condition.checkAll j.conditions = .ok () :=
  forM_ok_iff

namespace Select

variable {q : Select}

theorem checkConditions_ok_iff :
    q.checkConditions = .ok () ↔ Join.checkAll q.joins = .ok () ∧
      Condition.checkAll q.conditions = .ok () ∧ Condition.checkAll q.groupConditions = .ok () := by
  simp [checkConditions]

theorem check_ok_iff :
    q.check = .ok () ↔ q.tables ≠ [] ∧ q.selections ≠ [] ∧ q.checkConditions = .ok () := by
  simp [check]

theorem checkCount_ok_iff :
    q.checkCount = .ok () ↔ q.tables ≠ [] ∧ q.checkConditions = .ok () := by
  simp [checkCount]

end Select

theorem Insert.check_ok_iff {q : Insert} :
    q.check = .ok () ↔ (∃ t ∈ q.target, Text.allBlank t.name = false) ∧
      ¬(q.byColumn ∧ q.byRow) ∧ (∀ column ∈ q.targetColumns, column.check = .ok ()) ∧
      q.arity ≠ 0 ∧ checkRows q.arity 1 q.rows = .ok () := by
  rw [Insert.check, ← forM_ok_iff]
  cases q.target with
  | none => simp [throw, throwThe, MonadExceptOf.throw]
  | some t => simp

theorem Update.checkAll_ok_iff {q : Update} :
    q.checkAll = .ok () ↔ (q.tables ≠ [] ∧ q.assignments ≠ [] ∧
      (∀ a ∈ q.assignments, a.check = .ok ()) ∧ Join.checkAll q.joins = .ok () ∧
      Condition.checkAll q.conditions = .ok ()) ∧
      checkLimit "UPDATE" q.resolved q.limit = .ok () := by
  simp [Update.checkAll, Update.check, ← forM_ok_iff]

theorem Delete.checkAll_ok_iff {q : Delete} :
    q.checkAll = .ok () ↔ (q.tables ≠ [] ∧ Join.checkAll q.joins = .ok () ∧
      Condition.checkAll q.conditions = .ok ()) ∧
      checkLimit "DELETE" q.resolved q.limit = .ok () := by
  simp [Delete.checkAll, Delete.check]

end QueryKit
