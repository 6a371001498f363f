import QueryKit.Condition

/-! Truth in three values, and what may be composed of predicates by connectives: a truth value, or
the list of the predicates themselves. A composed truth value takes those of its predicates one
after another, so two places of the same predicate may differ. -/

namespace QueryKit

/-- A truth value. A predicate about a missing value is neither true nor false. -/
inductive Truth
  | no
  | unknown
  | yes
deriving DecidableEq

namespace Truth

def ofBool : Bool → Truth
  | true => yes
  | false => no

def and : Truth → Truth → Truth
  | no, _ | _, no => no
  | yes, t => t
  | unknown, _ => unknown

def or : Truth → Truth → Truth
  | yes, _ | _, yes => yes
  | no, t => t
  | unknown, _ => unknown

def not : Truth → Truth
  | no => yes
  | unknown => unknown
  | yes => no

theorem and_assoc (a b c : Truth) : (a.and b).and c = a.and (b.and c) := by
  cases a <;> cases b <;> cases c <;> rfl

theorem or_assoc (a b c : Truth) : (a.or b).or c = a.or (b.or c) := by
  cases a <;> cases b <;> cases c <;> rfl

theorem and_yes (a : Truth) : a.and yes = a := by
  cases a <;> rfl

theorem or_no (a : Truth) : a.or no = a := by
  cases a <;> rfl

theorem yes_and (a : Truth) : yes.and a = a := by
  cases a <;> rfl

theorem yes_or (a : Truth) : yes.or a = yes := by
  cases a <;> rfl

theorem no_or (a : Truth) : no.or a = a := by
  cases a <;> rfl

theorem and_self (a : Truth) : a.and a = a := by
  cases a <;> rfl

theorem or_self (a : Truth) : a.or a = a := by
  cases a <;> rfl

theorem and_eq_yes {a b : Truth} : a.and b = yes ↔ a = yes ∧ b = yes := by
  cases a <;> cases b <;> decide

theorem or_eq_yes {a b : Truth} : a.or b = yes ↔ a = yes ∨ b = yes := by
  cases a <;> cases b <;> decide

theorem not_not (a : Truth) : a.not.not = a := by
  cases a <;> rfl

theorem ne_not {a : Truth} (h : a ≠ unknown) : a ≠ a.not := by
  cases a
  · decide
  · contradiction
  · decide

theorem not_ne_unknown {a : Truth} (h : a ≠ unknown) : a.not ≠ unknown := by
  cases a
  · decide
  · contradiction
  · decide

end Truth

/-- Ways to compose meanings. It does not matter from which side a row of conjunctions or of
disjunctions is composed. -/
structure Connectives (A : Type) where
  and : A → A → A
  or : A → A → A
  not : A → A
  and_assoc : ∀ a b c, and (and a b) c = and a (and b c)
  or_assoc : ∀ a b c, or (or a b) c = or a (or b c)

namespace Connectives

variable {A : Type}

def join (k : Connectives A) : Junction → A → A → A
  | .and => k.and
  | .or => k.or

theorem join_assoc (k : Connectives A) (j : Junction) (a b c : A) :
    k.join j (k.join j a b) c = k.join j a (k.join j b c) := by
  cases j
  · exact k.and_assoc a b c
  · exact k.or_assoc a b c

/-- Composes what is there. -/
def join? (k : Connectives A) (j : Junction) : Option A → Option A → Option A
  | none, b => b
  | a, none => a
  | some a, some b => some (k.join j a b)

@[simp] theorem none_join? (k : Connectives A) (j : Junction) (b : Option A) :
    k.join? j none b = b := by
  cases b <;> rfl

@[simp] theorem join?_none (k : Connectives A) (j : Junction) (a : Option A) :
    k.join? j a none = a := by
  cases a <;> rfl

@[simp] theorem some_join?_some (k : Connectives A) (j : Junction) (a b : A) :
    k.join? j (some a) (some b) = some (k.join j a b) :=
  rfl

theorem join?_assoc (k : Connectives A) (j : Junction) (a b c : Option A) :
    k.join? j (k.join? j a b) c = k.join? j a (k.join? j b c) := by
  cases a with
  | none => simp
  | some a =>
    cases b with
    | none => simp
    | some b =>
      cases c with
      | none => simp
      | some c => simp [join_assoc]

/-- Lists one behind another, whatever the connective. -/
def lists (α : Type) : Connectives (List α) where
  and := List.append
  or := List.append
  not as := as
  and_assoc := List.append_assoc
  or_assoc := List.append_assoc

end Connectives

/-! ### Valuations -/

/-- A truth value that depends on those of some predicates, which it takes in their order. -/
@[ext] structure Valuation where
  size : Nat
  value : List Truth → Truth
  value_take : ∀ σ, value (σ.take size) = value σ

namespace Valuation

def single (f : Truth → Truth) : Valuation where
  size := 1
  value σ := f (σ.headD .unknown)
  value_take σ := by cases σ <;> rfl

/-- Two valuations by a connective; the second takes what the first leaves. -/
def compose (f : Truth → Truth → Truth) (v w : Valuation) : Valuation where
  size := v.size + w.size
  value σ := f (v.value σ) (w.value (σ.drop v.size))
  value_take σ := by
    have hv : v.value (σ.take (v.size + w.size)) = v.value σ := by
      rw [← v.value_take, List.take_take, Nat.min_eq_left (by omega), v.value_take]
    rw [hv, List.drop_take, Nat.add_sub_cancel_left, w.value_take]

theorem compose_assoc {f : Truth → Truth → Truth} (hf : ∀ a b c, f (f a b) c = f a (f b c))
    (u v w : Valuation) : compose f (compose f u v) w = compose f u (compose f v w) := by
  ext σ
  · simp [compose, Nat.add_assoc]
  · simp [compose, hf, List.drop_drop]

def connectives : Connectives Valuation where
  and := compose Truth.and
  or := compose Truth.or
  not v := ⟨v.size, fun σ => (v.value σ).not, fun σ => congrArg Truth.not (v.value_take σ)⟩
  and_assoc := compose_assoc Truth.and_assoc
  or_assoc := compose_assoc Truth.or_assoc

/-- The valuation has the value for as many truth values as it takes. -/
def Takes (v : Valuation) (σ : List Truth) (t : Truth) : Prop :=
  σ.length = v.size ∧ v.value σ = t

variable {v w : Valuation} {σ τ : List Truth} {a b : Truth}

theorem Takes.single (f : Truth → Truth) (t : Truth) : (Valuation.single f).Takes [t] (f t) :=
  ⟨rfl, rfl⟩

theorem Takes.compose {f : Truth → Truth → Truth} (hv : v.Takes σ a) (hw : w.Takes τ b) :
    (Valuation.compose f v w).Takes (σ ++ τ) (f a b) := by
  obtain ⟨hσ, rfl⟩ := hv
  obtain ⟨hτ, rfl⟩ := hw
  refine ⟨by simp [Valuation.compose, hσ, hτ], ?_⟩
  have hfirst : v.value (σ ++ τ) = v.value σ := by
    rw [← v.value_take, ← hσ, List.take_left]
  simp [Valuation.compose, hfirst, ← hσ]

theorem Takes.and (hv : v.Takes σ a) (hw : w.Takes τ b) :
    (connectives.and v w).Takes (σ ++ τ) (a.and b) :=
  hv.compose hw

theorem Takes.or (hv : v.Takes σ a) (hw : w.Takes τ b) :
    (connectives.or v w).Takes (σ ++ τ) (a.or b) :=
  hv.compose hw

theorem Takes.not (hv : v.Takes σ a) : (connectives.not v).Takes σ a.not :=
  ⟨hv.1, congrArg Truth.not hv.2⟩

end Valuation

end QueryKit
