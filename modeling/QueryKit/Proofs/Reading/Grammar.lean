import QueryKit.Proofs.Reading.Truth

/-! The grammar of boolean expressions, in which a contrary binds before a conjunction and a
conjunction before a disjunction. A row of marks has one reading at most: a machine that takes one
mark after another and keeps a frame for each open parenthesis arrives at every reading there is. -/

namespace QueryKit

/-- A mark of a boolean expression. -/
inductive Mark (α : Type)
  | atom (a : α)
  | and
  | or
  | not
  | opened
  | closed

/-- The mark between two parts of a group. -/
def Junction.mark {α : Type} : Junction → Mark α
  | .and => .and
  | .or => .or

/-- What an expression says. -/
inductive Formula (α : Type)
  | atom (a : α)
  | not (part : Formula α)
  | and (left right : Formula α)
  | or (left right : Formula α)

/-- How tightly an expression is bound. -/
inductive Level
  | factor
  | conjunction
  | disjunction

/-- The marks are read as an expression that is bound at least as tightly as the level. -/
inductive Parses {α : Type} : Level → List (Mark α) → Formula α → Prop
  | atom (a : α) : Parses .factor [.atom a] (.atom a)
  | not {ms : List (Mark α)} {r : Formula α} (h : Parses .factor ms r) :
    Parses .factor (.not :: ms) (.not r)
  | nested {ms : List (Mark α)} {r : Formula α} (h : Parses .disjunction ms r) :
    Parses .factor (.opened :: ms ++ [.closed]) r
  | factor {ms : List (Mark α)} {r : Formula α} (h : Parses .factor ms r) :
    Parses .conjunction ms r
  | and {ms ns : List (Mark α)} {l r : Formula α} (left : Parses .conjunction ms l)
    (right : Parses .factor ns r) : Parses .conjunction (ms ++ .and :: ns) (.and l r)
  | conjunction {ms : List (Mark α)} {r : Formula α} (h : Parses .conjunction ms r) :
    Parses .disjunction ms r
  | or {ms ns : List (Mark α)} {l r : Formula α} (left : Parses .disjunction ms l)
    (right : Parses .conjunction ns r) : Parses .disjunction (ms ++ .or :: ns) (.or l r)

variable {α : Type}

theorem Parses.ne_nil {level : Level} {ms : List (Mark α)} {r : Formula α}
    (h : Parses level ms r) : ms ≠ [] := by
  induction h with
  | factor _ ih | conjunction _ ih => exact ih
  | _ => simp

/-! ### One reading at most -/

/-- What waits for a factor: a function to the conjunction that it completes, and one from that to
the disjunction so far. -/
structure Formula.Frame (α : Type) where
  conjunct : Formula α → Formula α
  disjunct : Formula α → Formula α

/-- A machine that reads marks. It waits for a factor, or it has read a conjunction and holds the
function to the disjunction so far. -/
inductive Formula.Machine (α : Type)
  | waiting (frame : Formula.Frame α) (outer : List (Formula.Frame α))
  | holding (r : Formula α) (disjunct : Formula α → Formula α) (outer : List (Formula.Frame α))

namespace Formula.Machine

/-- The machine in front of an expression. -/
def start (outer : List (Frame α)) : Machine α :=
  waiting ⟨id, id⟩ outer

/-- The machine behind a factor. -/
def complete (r : Formula α) (frame : Frame α) (outer : List (Frame α)) : Machine α :=
  holding (frame.conjunct r) frame.disjunct outer

/-- The machine behind one more mark. -/
def step : Mark α → Machine α → Machine α
  | .atom a, waiting frame outer => complete (.atom a) frame outer
  | .not, waiting frame outer => waiting { frame with conjunct := frame.conjunct ∘ .not } outer
  | .opened, waiting frame outer => start (frame :: outer)
  | .and, holding r disjunct outer => waiting ⟨.and r, disjunct⟩ outer
  | .or, holding r disjunct outer => waiting ⟨id, .or (disjunct r)⟩ outer
  | .closed, holding r disjunct (frame :: outer) => complete (disjunct r) frame outer
  | _, m => m

/-- The machine behind a row of marks. -/
def run (ms : List (Mark α)) (m : Machine α) : Machine α :=
  ms.foldl (fun m mark => step mark m) m

theorem run_cons (mark : Mark α) (ms : List (Mark α)) (m : Machine α) :
    run (mark :: ms) m = run ms (step mark m) :=
  rfl

theorem run_append (ms ns : List (Mark α)) (m : Machine α) :
    run (ms ++ ns) m = run ns (run ms m) :=
  List.foldl_append

/-- Behind an expression of each level the machine holds its reading, whatever is around it. -/
def Reaches : Level → List (Mark α) → Formula α → Prop
  | .factor, ms, r => ∀ frame outer, run ms (waiting frame outer) = complete r frame outer
  | .conjunction, ms, r =>
    ∀ disjunct outer, run ms (waiting ⟨id, disjunct⟩ outer) = holding r disjunct outer
  | .disjunction, ms, r =>
    ∀ outer, ∃ c disjunct, disjunct c = r ∧ run ms (start outer) = holding c disjunct outer

theorem reaches_of_parses {level : Level} {ms : List (Mark α)} {r : Formula α}
    (h : Parses level ms r) : Reaches level ms r := by
  induction h with
  | atom a => exact fun _ _ => rfl
  | not _ ih =>
    intro frame outer
    rw [run_cons, step, ih]
    rfl
  | nested _ ih =>
    intro frame outer
    obtain ⟨c, disjunct, rfl, hrun⟩ := ih (frame :: outer)
    rw [List.cons_append, run_cons, run_append, step, hrun]
    rfl
  | factor _ ih => exact fun disjunct outer => ih ⟨id, disjunct⟩ outer
  | and _ _ ihl ihr =>
    intro disjunct outer
    rw [run_append, ihl, run_cons, step, ihr]
    rfl
  | conjunction _ ih => exact fun outer => ⟨_, id, rfl, ih id outer⟩
  | @or ms ns l r _ _ ihl ihr =>
    intro outer
    obtain ⟨c, disjunct, rfl, hrun⟩ := ihl outer
    refine ⟨r, .or (disjunct c), rfl, ?_⟩
    rw [run_append, hrun, run_cons, step, ihr]

end Formula.Machine

/-- A row of marks is read as one expression at most. -/
theorem Parses.unique {ms : List (Mark α)} {r s : Formula α} (hr : Parses .disjunction ms r)
    (hs : Parses .disjunction ms s) : r = s := by
  obtain ⟨c, f, rfl, hc⟩ := Formula.Machine.reaches_of_parses hr []
  obtain ⟨e, g, rfl, he⟩ := Formula.Machine.reaches_of_parses hs []
  rw [hc] at he
  cases he
  rfl

/-! ### Meanings -/

namespace Formula

variable {A : Type}

/-- What is composed of the meanings of the atoms. -/
def fold (k : Connectives A) (leaf : α → A) : Formula α → A
  | atom a => leaf a
  | not part => k.not (part.fold k leaf)
  | and left right => k.and (left.fold k leaf) (right.fold k leaf)
  | or left right => k.or (left.fold k leaf) (right.fold k leaf)

def atoms (r : Formula α) : List α :=
  r.fold (.lists α) fun a => [a]

/-- The truth value under truth values for the atoms from left to right, where each atom says what
it makes of its own. -/
def evaluate (truth : α → Truth → Truth) (r : Formula α) (σ : List Truth) : Truth :=
  (r.fold Valuation.connectives fun a => .single (truth a)).value σ

end Formula

/-- The marks can be read as an expression with the meaning. -/
def Means {A : Type} (k : Connectives A) (leaf : α → A) (level : Level) (ms : List (Mark α))
    (a : A) : Prop :=
  ∃ r, Parses level ms r ∧ r.fold k leaf = a

/-- One or more meanings in a row. -/
inductive Disjuncts (A : Type)
  | one (a : A)
  | more (a : A) (rest : Disjuncts A)

namespace Disjuncts

variable {A : Type}

/-- One row behind another. -/
def append : Disjuncts A → Disjuncts A → Disjuncts A
  | one a, ds => more a ds
  | more a rest, ds => more a (rest.append ds)

/-- One row behind another, with the last of the first and the first of the second composed. -/
def glue (f : A → A → A) : Disjuncts A → Disjuncts A → Disjuncts A
  | one a, one b => one (f a b)
  | one a, more b rest => more (f a b) rest
  | more a rest, ds => more a (rest.glue f ds)

def count : Disjuncts A → Nat
  | one _ => 1
  | more _ rest => rest.count + 1

def value (f : A → A → A) : Disjuncts A → A
  | one a => a
  | more a rest => f a (rest.value f)

theorem count_pos (ds : Disjuncts A) : 0 < ds.count := by
  cases ds <;> simp [count]

theorem count_append (ds es : Disjuncts A) : (ds.append es).count = ds.count + es.count := by
  induction ds with
  | one a => simp [append, count, Nat.add_comm]
  | more a rest ih =>
    simp only [append, count, ih]
    omega

theorem count_glue (f : A → A → A) (ds es : Disjuncts A) :
    (ds.glue f es).count = ds.count + es.count - 1 := by
  induction ds with
  | one a => cases es <;> simp [glue, count, Nat.add_comm]
  | more a rest ih =>
    have := rest.count_pos
    simp only [glue, count, ih]
    omega

theorem eq_one_of_count {ds : Disjuncts A} (h : ds.count = 1) : ∃ a, ds = one a := by
  cases ds with
  | one a => exact ⟨a, rfl⟩
  | more a rest =>
    have := rest.count_pos
    simp only [count] at h
    omega

theorem append_assoc (ds es fs : Disjuncts A) :
    (ds.append es).append fs = ds.append (es.append fs) := by
  induction ds with
  | one a => rfl
  | more a rest ih => simp [append, ih]

theorem glue_append (f : A → A → A) (ds es fs : Disjuncts A) :
    ds.glue f (es.append fs) = (ds.glue f es).append fs := by
  induction ds with
  | one a => cases es <;> rfl
  | more a rest ih => simp [glue, append, ih]

theorem append_glue (f : A → A → A) (ds es fs : Disjuncts A) :
    (ds.append es).glue f fs = ds.append (es.glue f fs) := by
  induction ds with
  | one a => rfl
  | more a rest ih => simp [glue, append, ih]

theorem glue_assoc {f : A → A → A} (hf : ∀ a b c, f (f a b) c = f a (f b c))
    (ds es fs : Disjuncts A) : (ds.glue f es).glue f fs = ds.glue f (es.glue f fs) := by
  induction ds with
  | one a =>
    cases es with
    | one b => cases fs <;> simp [glue, hf]
    | more b rest => rfl
  | more a rest ih => simp [glue, ih]

theorem value_append {f : A → A → A} (hf : ∀ a b c, f (f a b) c = f a (f b c))
    (ds es : Disjuncts A) : (ds.append es).value f = f (ds.value f) (es.value f) := by
  induction ds with
  | one a => rfl
  | more a rest ih => simp [append, value, ih, hf]

end Disjuncts

/-- The marks can be read as a disjunction of conjunctions with the meanings. -/
inductive Disjoined {A : Type} (k : Connectives A) (leaf : α → A) :
    List (Mark α) → Disjuncts A → Prop
  | one {ms : List (Mark α)} {a : A} (h : Means k leaf .conjunction ms a) :
    Disjoined k leaf ms (.one a)
  | or {ms ns : List (Mark α)} {ds : Disjuncts A} {a : A} (left : Disjoined k leaf ms ds)
    (right : Means k leaf .conjunction ns a) :
    Disjoined k leaf (ms ++ .or :: ns) (ds.append (.one a))

section Meanings

variable {A : Type} {k : Connectives A} {leaf : α → A} {ms ns : List (Mark α)}
  {ds es : Disjuncts A} {a b : A}

theorem Means.atom (x : α) : Means k leaf .factor [.atom x] (leaf x) :=
  ⟨.atom x, .atom x, rfl⟩

theorem Means.factor (h : Means k leaf .factor ms a) : Means k leaf .conjunction ms a := by
  obtain ⟨r, hr, rfl⟩ := h
  exact ⟨r, hr.factor, rfl⟩

theorem Means.not (h : Means k leaf .factor ms a) :
    Means k leaf .factor (.not :: ms) (k.not a) := by
  obtain ⟨r, hr, rfl⟩ := h
  exact ⟨.not r, hr.not, rfl⟩

theorem Means.nested (h : Means k leaf .disjunction ms a) :
    Means k leaf .factor (.opened :: ms ++ [.closed]) a := by
  obtain ⟨r, hr, rfl⟩ := h
  exact ⟨r, hr.nested, rfl⟩

/-- Behind a conjunction stands another one: the row is read from its left end. -/
theorem Means.and (ha : Means k leaf .conjunction ms a) (hb : Means k leaf .conjunction ns b) :
    Means k leaf .conjunction (ms ++ .and :: ns) (k.and a b) := by
  obtain ⟨l, hl, rfl⟩ := ha
  obtain ⟨r, hr, rfl⟩ := hb
  generalize hlevel : Level.conjunction = level at hr
  induction hr with
  | factor hr => exact ⟨.and l _, hl.and hr, rfl⟩
  | @and ps qs s t _ hqs ih =>
    obtain ⟨u, hu, hfold⟩ := ih rfl
    refine ⟨.and u t, ?_, ?_⟩
    · simpa using hu.and hqs
    · rw [Formula.fold, hfold, Formula.fold, k.and_assoc]
  | _ => contradiction

theorem Disjoined.means (h : Disjoined k leaf ms ds) :
    Means k leaf .disjunction ms (ds.value k.or) := by
  induction h with
  | one h =>
    obtain ⟨r, hr, rfl⟩ := h
    exact ⟨r, hr.conjunction, rfl⟩
  | @or ms ns ds a _ right ih =>
    obtain ⟨l, hl, hfold⟩ := ih
    obtain ⟨r, hr, rfl⟩ := right
    refine ⟨.or l r, hl.or hr, ?_⟩
    rw [Disjuncts.value_append k.or_assoc, ← hfold]
    rfl

/-- Every expression is a disjunction of conjunctions. -/
theorem disjoined_of_parses {r : Formula α} (h : Parses .disjunction ms r) :
    ∃ ds, Disjoined k leaf ms ds ∧ ds.value k.or = r.fold k leaf := by
  generalize hlevel : Level.disjunction = level at h
  induction h with
  | @conjunction ms r h => exact ⟨.one (r.fold k leaf), .one ⟨r, h, rfl⟩, rfl⟩
  | @or ms ns l r _ hr ih =>
    obtain ⟨ds, hds, hvalue⟩ := ih rfl
    refine ⟨ds.append (.one (r.fold k leaf)), hds.or ⟨r, hr, rfl⟩, ?_⟩
    rw [Disjuncts.value_append k.or_assoc, hvalue]
    rfl
  | _ => contradiction

theorem Disjoined.append (hd : Disjoined k leaf ms ds) (he : Disjoined k leaf ns es) :
    Disjoined k leaf (ms ++ .or :: ns) (ds.append es) := by
  induction he with
  | one h => exact hd.or h
  | @or ps qs fs b _ right ih =>
    rw [← Disjuncts.append_assoc]
    simpa using ih.or right

/-- Between two disjunctions a conjunction takes the last part of the first and the first part of
the second. -/
theorem Disjoined.glue (hd : Disjoined k leaf ms ds) (he : Disjoined k leaf ns es) :
    Disjoined k leaf (ms ++ .and :: ns) (ds.glue k.and es) := by
  induction he with
  | one hb =>
    cases hd with
    | one ha => exact .one (ha.and hb)
    | or left ha =>
      rw [Disjuncts.append_glue, Disjuncts.glue]
      simpa using left.or (ha.and hb)
  | @or ps qs fs b _ right ih =>
    rw [Disjuncts.glue_append]
    simpa using ih.or right

end Meanings

end QueryKit
