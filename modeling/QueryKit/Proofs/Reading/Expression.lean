import QueryKit.Proofs.Reading.Tree

/-! Outlines whose leaves are boolean expressions, with the marks of each leaf written as they
stand. The marks have one reading. It has the truth values of the outline exactly if no leaf with a
disjunction outside of parentheses is an operand of a conjunction. -/

namespace QueryKit

/-- A boolean expression with its reading. -/
structure Expression (α : Type) where
  marks : List (Mark α)
  formula : Formula α
  parses : Parses .disjunction marks formula

def Expression.atom {α : Type} (a : α) : Expression α :=
  ⟨[.atom a], .atom a, (Parses.atom a).factor.conjunction⟩

def Expression.either {α : Type} (a b : α) : Expression α :=
  ⟨[.atom a, .or, .atom b], .or (.atom a) (.atom b),
    (Parses.atom a).factor.conjunction.or (Parses.atom b).factor⟩

namespace Mark

variable {α : Type}

/-- The number of disjunctions outside of parentheses, from a number of open ones on. -/
def looseOrs : Nat → List (Mark α) → Nat
  | _, [] => 0
  | depth, .opened :: ms => looseOrs (depth + 1) ms
  | depth, .closed :: ms => looseOrs (depth - 1) ms
  | 0, .or :: ms => looseOrs 0 ms + 1
  | depth + 1, .or :: ms => looseOrs (depth + 1) ms
  | depth, .and :: ms | depth, .not :: ms | depth, .atom _ :: ms => looseOrs depth ms

/-- Only a disjunction has disjunctions outside of parentheses. -/
theorem looseOrs_of_parses {level : Level} {ms : List (Mark α)} {r : Formula α}
    (h : Parses level ms r) (depth : Nat) (hdepth : level = .disjunction → depth ≠ 0)
    (rest : List (Mark α)) : looseOrs depth (ms ++ rest) = looseOrs depth rest := by
  induction h generalizing depth rest with
  | atom a => simp [looseOrs]
  | not _ ih => simpa [looseOrs] using ih depth hdepth rest
  | nested _ ih =>
    have hinner := ih (depth + 1) (by omega) (.closed :: rest)
    simpa [looseOrs] using hinner
  | factor _ ih => exact ih depth (by simp) rest
  | @and ms ns l r _ _ ihl ihr =>
    have hl := ihl depth hdepth (.and :: (ns ++ rest))
    have hr := ihr depth (by simp) rest
    simp only [List.append_assoc, List.cons_append, looseOrs] at hl ⊢
    rw [hl, hr]
  | conjunction _ ih => exact ih depth (by simp) rest
  | @or ms ns l r _ _ ihl ihr =>
    obtain ⟨depth, rfl⟩ := Nat.exists_eq_succ_of_ne_zero (hdepth rfl)
    have hl := ihl (depth + 1) (by simp) (.or :: (ns ++ rest))
    have hr := ihr (depth + 1) (by simp) rest
    simp only [Nat.succ_eq_add_one, List.append_assoc, List.cons_append, looseOrs] at hl ⊢
    rw [hl, hr]

theorem looseOrs_of_disjoined {A : Type} {k : Connectives A} {leaf : α → A} {ms : List (Mark α)}
    {ds : Disjuncts A} (h : Disjoined k leaf ms ds) (rest : List (Mark α)) :
    looseOrs 0 (ms ++ rest) + 1 = ds.count + looseOrs 0 rest := by
  induction h generalizing rest with
  | one h =>
    obtain ⟨r, hr, -⟩ := h
    rw [looseOrs_of_parses hr 0 (by simp), Disjuncts.count]
    omega
  | @or ms ns ds a _ right ih =>
    obtain ⟨r, hr, -⟩ := right
    have hms := ih (.or :: (ns ++ rest))
    have hns := looseOrs_of_parses hr 0 (by simp) rest
    simp only [List.append_assoc, List.cons_append, looseOrs, Disjuncts.count_append,
      Disjuncts.count] at hms ⊢
    omega

end Mark

/-- The number of parts of the disjunction outside of parentheses. -/
def Expression.width {α : Type} (e : Expression α) : Nat :=
  Mark.looseOrs 0 e.marks + 1

/-! ### Atoms with truth values of their own -/

namespace Formula

variable {α : Type}

/-- The truth value, which depends on those of the atoms from left to right. -/
def valuation (r : Formula α) : Valuation :=
  r.fold Valuation.connectives fun _ => .single id

/-- A formula may get every truth value, as no atom stands in two places. -/
theorem exists_takes (r : Formula α) (t : Truth) : ∃ σ, r.valuation.Takes σ t := by
  induction r generalizing t with
  | atom a => exact ⟨[t], .single id t⟩
  | not part ih =>
    obtain ⟨σ, h⟩ := ih t.not
    have hnot := h.not
    rw [Truth.not_not] at hnot
    exact ⟨σ, hnot⟩
  | and left right ihl ihr =>
    obtain ⟨σ, hl⟩ := ihl t
    obtain ⟨τ, hr⟩ := ihr t
    have hand := hl.and hr
    rw [Truth.and_self] at hand
    exact ⟨σ ++ τ, hand⟩
  | or left right ihl ihr =>
    obtain ⟨σ, hl⟩ := ihl t
    obtain ⟨τ, hr⟩ := ihr t
    have hor := hl.or hr
    rw [Truth.or_self] at hor
    exact ⟨σ ++ τ, hor⟩

end Formula

theorem Disjoined.exists_takes {α : Type} {ms : List (Mark α)} {ds : Disjuncts Valuation}
    (h : Disjoined Valuation.connectives (fun _ => .single id) ms ds) (t : Truth) :
    ∃ σ, ds.Takes σ t := by
  induction h with
  | one h =>
    obtain ⟨r, -, rfl⟩ := h
    exact r.exists_takes t
  | or _ right ih =>
    obtain ⟨r, -, rfl⟩ := right
    obtain ⟨σ, hσ⟩ := ih
    obtain ⟨τ, hτ⟩ := r.exists_takes t
    have hlast : (Disjuncts.one (r.fold Valuation.connectives fun _ => .single id)).Takes τ t := hτ
    exact ⟨σ ++ τ, hσ.append hlast⟩

namespace Outline

variable {α β : Type} (e : α → Expression β)

/-- Each expression is a disjunction that may get any truth value, and a reading of an outline has
the truth values that the marks say. -/
theorem exists_disjuncts : ∃ v : α → Disjuncts Valuation,
    (∀ a t, ∃ σ, (v a).Takes σ t) ∧ (∀ a, (v a).count = (e a).width) ∧
    (∀ o : Outline α, o.sense v = o.meaning Valuation.connectives fun a => (e a).formula.valuation) ∧
    ∀ o : Outline α, ∃ r : Formula β, Parses .disjunction (o.marks fun a => (e a).marks) r ∧
      r.valuation = (o.disjuncts Valuation.connectives v).value Valuation.connectives.or := by
  have hdisjoined : ∀ a, ∃ ds : Disjuncts Valuation,
      Disjoined Valuation.connectives (fun _ => .single id) (e a).marks ds ∧
        ds.value Valuation.connectives.or = (e a).formula.valuation :=
    fun a => disjoined_of_parses (e a).parses
  obtain ⟨v, hv⟩ := Classical.axiomOfChoice hdisjoined
  refine ⟨v, fun a => (hv a).1.exists_takes, fun a => ?_, fun o => ?_, fun o => ?_⟩
  · have hors := Mark.looseOrs_of_disjoined (hv a).1 []
    simpa [Mark.looseOrs, Expression.width] using hors.symm
  · exact meaning_congr _ fun a _ => (hv a).2
  · exact (disjoined_marks (fun a => (hv a).1) o).means

/-- The marks of an outline of expressions have a reading, which has the truth values of the outline
exactly if the outline is sheltered. -/
theorem exists_formula_iff (o : Outline α) :
    ∃ r : Formula β, Parses .disjunction (o.marks fun a => (e a).marks) r ∧
      ((∀ σ, r.valuation.value σ =
          (o.meaning Valuation.connectives fun a => (e a).formula.valuation).value σ) ↔
        o.Sheltered fun a => (e a).width) := by
  obtain ⟨v, htakes, hcount, hsense, hreads⟩ := exists_disjuncts e
  obtain ⟨r, hr, hvalue⟩ := hreads o
  have hiff := says_meaning_iff htakes hcount o
  rw [← hvalue, hsense] at hiff
  exact ⟨r, hr, hiff⟩

/-- More parts of a group are joined to those that are there, and the parentheses are put around
all of them. -/
theorem exists_grouped_append {j : Junction} {os : List (Outline α)} {o : Outline α}
    (h : grouped j os = some o) (p : Outline α) (ps : List (Outline α)) :
    ∃ left, (o = left ∨ o = left.enclosed) ∧
      grouped j (os ++ p :: ps) = some (enclosed (ps.foldl (joined j) (joined j left p))) := by
  match os with
  | [] => contradiction
  | [q] =>
    cases h
    exact ⟨_, .inl rfl, rfl⟩
  | q :: q' :: os =>
    cases h
    exact ⟨_, .inr rfl, by simp [grouped]⟩

/-- More parts of a conjunction make nothing true that is not true without them, exactly if none of
them is a disjunction that has no parentheses around it. -/
theorem narrows_grouped_iff {os ps : List (Outline α)} {o o' : Outline α} {r s : Formula β}
    (ho : grouped .and os = some o) (ho' : grouped .and (os ++ ps) = some o')
    (hs : Parses .disjunction (o.marks fun a => (e a).marks) s)
    (hr : Parses .disjunction (o'.marks fun a => (e a).marks) r) :
    (∀ σ, r.valuation.value σ = .yes → s.valuation.value σ = .yes) ↔
      ∀ p ∈ ps, p.width (fun a => (e a).width) = 1 := by
  obtain ⟨v, htakes, hcount, -, hreads⟩ := exists_disjuncts e
  have hvalue : ∀ (o : Outline α) (r : Formula β),
      Parses .disjunction (o.marks fun a => (e a).marks) r →
        r.valuation = (o.disjuncts Valuation.connectives v).value Valuation.connectives.or := by
    intro o r hr
    obtain ⟨r', hr', hvalue⟩ := hreads o
    rw [hr.unique hr', hvalue]
  rw [hvalue o s hs, hvalue o' r hr]
  match ps with
  | [] =>
    rw [List.append_nil, ho, Option.some_inj] at ho'
    subst ho'
    simp
  | p :: ps =>
    obtain ⟨left, hleft, hgrouped⟩ := exists_grouped_append ho p ps
    rw [hgrouped, Option.some_inj] at ho'
    have hsame : (o.disjuncts Valuation.connectives v).value Valuation.connectives.or =
        (left.disjuncts Valuation.connectives v).value Valuation.connectives.or := by
      rcases hleft with rfl | rfl <;> rfl
    rw [hsame, ← ho', ← narrows_iff htakes hcount left p ps]
    rfl

end Outline

end QueryKit
