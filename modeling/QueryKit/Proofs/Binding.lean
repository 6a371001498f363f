import QueryKit.Binding
import QueryKit.Proofs.Row

/-! What a binding gives. `Cursor.Gives` says of every destination what comes of a cursor: which rows
are taken, which columns of them are read, which error ends it, and what is left. Binding gives
exactly that, whatever number of rows is expected, and what is given leaves nothing open but the
order of the entries of a map. -/

namespace QueryKit

open Check

/-! ### Key columns -/

namespace Header

variable {h : Header} {name : String} {names : List String} {places : List h.Place} {e : Error}

/-- The places of key columns: the first place of each name, in the order of the names, or the first
column of all if there are no names. -/
inductive KeyedBy (h : Header) (names : List String) : List h.Place → Prop
  | first (unnamed : names = []) (inside : 0 < h.names.length) : KeyedBy h names [⟨0, inside⟩]
  | named {places : List h.Place} (given : names ≠ [])
      (found : List.Forall₂ h.IsFirst names places) : KeyedBy h names places

def keyPlace (h : Header) (name : String) : Except Error h.Place :=
  match h.position? name with
  | some i => .ok i
  | none => .error (.decode name .keyMissing)

theorem keyPlaces_of_ne_nil (hn : names ≠ []) : h.keyPlaces names = names.mapM h.keyPlace := by
  simp only [keyPlaces, List.isEmpty_iff, hn, if_false]
  rfl

theorem keyPlace_ok_iff {i : h.Place} : h.keyPlace name = .ok i ↔ h.IsFirst name i := by
  rw [← position?_eq_some_iff]
  unfold keyPlace
  cases h.position? name <;> simp

theorem keyPlaces_ok_iff : h.keyPlaces names = .ok places ↔ h.KeyedBy names places := by
  by_cases hn : names = []
  · subst hn
    constructor
    · intro hok
      by_cases inside : 0 < h.names.length
      · simp only [keyPlaces, List.isEmpty_nil, if_true, inside, dite_true, Except.ok.injEq] at hok
        exact hok ▸ .first rfl inside
      · simp [keyPlaces, inside] at hok
    · rintro (⟨-, inside⟩ | ⟨hn, -⟩)
      · simp [keyPlaces, inside]
      · contradiction
  · rw [keyPlaces_of_ne_nil hn, mapM_ok_iff]
    simp only [keyPlace_ok_iff]
    constructor
    · exact .named hn
    · rintro (⟨rfl, -⟩ | ⟨-, found⟩)
      · contradiction
      · exact found

/-- The places are all that are not among the keys, in ascending order. -/
structure Spares (h : Header) (keys others : List h.Place) : Prop where
  ascending : others.Pairwise (· < ·)
  mem_iff : ∀ i, i ∈ others ↔ i ∉ keys

theorem spares_otherPlaces (h : Header) (keys : List h.Place) :
    h.Spares keys (h.otherPlaces keys) where
  ascending := (List.pairwise_lt_finRange _).filter _
  mem_iff i := by simp [otherPlaces]

theorem Spares.unique {keys others others' : List h.Place} (ho : h.Spares keys others)
    (ho' : h.Spares keys others') : others = others' := by
  have hperm : others.Perm others' := by
    rw [List.perm_ext_iff_of_nodup ho.ascending.nodup ho'.ascending.nodup]
    intro i
    rw [ho.mem_iff, ho'.mem_iff]
  exact hperm.eq_of_pairwise (fun i j _ _ hij hji => absurd hji (Nat.lt_asymm hij)) ho.ascending
    ho'.ascending

end Header

/-! ### Steps of a cursor -/

namespace Cursor

variable {h : Header} {κ α : Type}

/-- The step fails: there is an error in place of its row, or its row cannot be read. -/
inductive Fails (read : Row h → Except Error α) : Except Error (Row h) → Error → Prop
  | step (e : Error) : Fails read (.error e) e
  | row {row : Row h} {e : Error} (unread : read row = .error e) : Fails read (.ok row) e

/-- What comes of the steps when their rows are read in order, and which steps are left: all rows
are read, or the first step that fails ends it and the steps behind it are left. -/
inductive Drains (read : Row h → Except Error α) (steps : List (Except Error (Row h))) :
    Except Error (List α) → List (Except Error (Row h)) → Prop
  | all (rows : List (Row h)) {xs : List α} (taken : steps = rows.map .ok)
      (reads : List.Forall₂ (fun row x => read row = .ok x) rows xs) : Drains read steps (.ok xs) []
  | fault (rows : List (Row h)) {step : Except Error (Row h)} {rest : List (Except Error (Row h))}
      {e : Error} (taken : steps = rows.map .ok ++ step :: rest)
      (reads : ∀ row ∈ rows, ∃ x, read row = .ok x) (fails : Fails read step e) :
      Drains read steps (.error e) rest

/-- What is read of all rows as a list. -/
def drain (read : Row h → Except Error α) :
    List (Except Error (Row h)) → Except Error (List α) × List (Except Error (Row h))
  | [] => (.ok [], [])
  | .error e :: rest => (.error e, rest)
  | .ok row :: rest =>
    match read row with
    | .error e => (.error e, rest)
    | .ok x =>
      let (xs, left) := drain read rest
      (xs.map (x :: ·), left)

theorem gather_eq {β : Type} (read : Row h → Except Error α) (put : β → α → β) (held : β)
    (steps : List (Except Error (Row h))) : gather read put held steps =
      ((drain read steps).1.map fun xs => xs.foldl put held, (drain read steps).2) := by
  induction steps generalizing held with
  | nil => rfl
  | cons step steps ih =>
    cases step with
    | error e => rfl
    | ok row =>
      simp only [gather, drain]
      cases read row with
      | error e => rfl
      | ok x =>
        simp only [ih]
        cases (drain read steps).1 <;> rfl

theorem drain_front (read : Row h → Except Error α) {rows : List (Row h)} {xs : List α}
    (reads : List.Forall₂ (fun row x => read row = .ok x) rows xs)
    (steps : List (Except Error (Row h))) :
    drain read (rows.map .ok ++ steps) =
      ((drain read steps).1.map (xs ++ ·), (drain read steps).2) := by
  induction reads with
  | nil =>
    simp only [List.map_nil, List.nil_append]
    cases drain read steps with
    | mk result left => cases result <;> rfl
  | cons hrow _ ih =>
    simp only [List.map_cons, List.cons_append, drain, hrow, ih]
    cases (drain read steps).1 <;> rfl

theorem drain_of_fails {read : Row h → Except Error α} {step : Except Error (Row h)} {e : Error}
    (fails : Fails read step e) (rest : List (Except Error (Row h))) :
    drain read (step :: rest) = (.error e, rest) := by
  cases fails with
  | step => rfl
  | row unread => simp [drain, unread]

/-- What comes of the steps is settled. -/
theorem Drains.eq {read : Row h → Except Error α} {steps left : List (Except Error (Row h))}
    {result : Except Error (List α)} (hd : Drains read steps result left) :
    drain read steps = (result, left) := by
  cases hd with
  | all rows taken reads =>
    have hfront := drain_front read reads []
    simp only [List.append_nil, drain] at hfront
    rw [taken, hfront]
    simp [Except.map]
  | fault rows taken reads fails =>
    obtain ⟨xs, hxs⟩ := exists_forall₂_iff.mpr reads
    rw [taken, drain_front read hxs, drain_of_fails fails]
    rfl

end Cursor

/-! ### Entries of a map -/

section Entries

variable {κ α : Type} {key : κ} {x : α} {pairs entries : List (κ × α)}

/-- Every key of the pairs stands once among the entries, with what its last pair holds. -/
structure LastWins (pairs entries : List (κ × α)) : Prop where
  nodup : (entries.map Prod.fst).Nodup
  mem_iff : ∀ key x, (key, x) ∈ entries ↔
    ∃ front back, pairs = front ++ (key, x) :: back ∧ key ∉ back.map Prod.fst

theorem lastWins_nil : LastWins ([] : List (κ × α)) [] where
  nodup := List.nodup_nil
  mem_iff := by simp

/-- One more pair: its key takes what it holds, and the other keys keep theirs. -/
theorem LastWins.update {entries' : List (κ × α)} (hl : LastWins pairs entries)
    (hn : (entries'.map Prod.fst).Nodup)
    (hmem : ∀ held y, (held, y) ∈ entries' ↔
      held = key ∧ y = x ∨ held ≠ key ∧ (held, y) ∈ entries) :
    LastWins (pairs ++ [(key, x)]) entries' where
  nodup := hn
  mem_iff held y := by
    rw [hmem, hl.mem_iff]
    constructor
    · rintro (⟨rfl, rfl⟩ | ⟨hne, front, back, rfl, hback⟩)
      · exact ⟨pairs, [], rfl, by simp⟩
      · refine ⟨front, back ++ [(key, x)], by simp, ?_⟩
        simpa [not_or] using ⟨by simpa using hback, hne⟩
    · rintro ⟨front, back, hsplit, hback⟩
      rcases List.eq_nil_or_concat back with rfl | ⟨back, last, rfl⟩
      · obtain ⟨-, hlast⟩ := List.append_inj' hsplit rfl
        simp only [List.cons.injEq, Prod.mk.injEq, and_true] at hlast
        exact .inl ⟨hlast.1.symm, hlast.2.symm⟩
      · simp only [List.concat_eq_append, ← List.cons_append, ← List.append_assoc] at hsplit
        obtain ⟨hpairs, hlast⟩ := List.append_inj' hsplit rfl
        simp only [List.cons.injEq, and_true] at hlast
        subst hlast
        simp only [List.concat_eq_append, List.map_append, List.map_cons, List.map_nil,
          List.mem_append, List.mem_singleton, not_or] at hback
        exact .inr ⟨hback.2, front, back, hpairs, hback.1⟩

variable [DecidableEq κ]

/-- Puts a value under a key in a list of entries. -/
def insertEntry (key : κ) (x : α) : List (κ × α) → List (κ × α)
  | [] => [(key, x)]
  | (held, y) :: rest =>
    if held = key then (held, x) :: rest else (held, y) :: insertEntry key x rest

theorem mem_keys_insertEntry {held : κ} :
    held ∈ (insertEntry key x entries).map Prod.fst ↔ held = key ∨ held ∈ entries.map Prod.fst := by
  fun_induction insertEntry key x entries with
  | case1 => simp
  | case2 y rest => simp
  | case3 other y rest hne ih =>
    simp only [List.map_cons, List.mem_cons, ih]
    tauto

theorem nodup_insertEntry (hn : (entries.map Prod.fst).Nodup) :
    ((insertEntry key x entries).map Prod.fst).Nodup := by
  fun_induction insertEntry key x entries with
  | case1 => simp
  | case2 y rest => simpa using hn
  | case3 other y rest hne ih =>
    simp only [List.map_cons, List.nodup_cons, mem_keys_insertEntry, not_or] at hn ⊢
    exact ⟨⟨hne, hn.1⟩, ih hn.2⟩

theorem mem_insertEntry (hn : (entries.map Prod.fst).Nodup) {held : κ} {y : α} :
    (held, y) ∈ insertEntry key x entries ↔
      held = key ∧ y = x ∨ held ≠ key ∧ (held, y) ∈ entries := by
  fun_induction insertEntry key x entries with
  | case1 => simp
  | case2 z rest =>
    simp only [List.map_cons, List.nodup_cons] at hn
    have hrest : (held, y) ∈ rest → held ≠ key := by
      rintro hmem rfl
      exact hn.1 (List.mem_map.mpr ⟨_, hmem, rfl⟩)
    simp only [List.mem_cons, Prod.mk.injEq]
    tauto
  | case3 other z rest hne ih =>
    simp only [List.map_cons, List.nodup_cons] at hn
    simp only [List.mem_cons, Prod.mk.injEq, ih hn.2]
    constructor
    · rintro (⟨rfl, rfl⟩ | hrest)
      · exact .inr ⟨hne, .inl ⟨rfl, rfl⟩⟩
      · tauto
    · tauto

theorem LastWins.insert (hl : LastWins pairs entries) (key : κ) (x : α) :
    LastWins (pairs ++ [(key, x)]) (insertEntry key x entries) :=
  hl.update (nodup_insertEntry hl.nodup) fun _ _ => mem_insertEntry hl.nodup

theorem LastWins.foldl (hl : LastWins pairs entries) (more : List (κ × α)) :
    LastWins (pairs ++ more)
      (more.foldl (fun held entry => insertEntry entry.1 entry.2 held) entries) := by
  induction more generalizing pairs entries with
  | nil => simpa using hl
  | cons pair more ih => simpa using ih (hl.insert pair.1 pair.2)

end Entries

/-! ### Bindings -/

namespace Cursor

variable {κ α β : Type} (c : Cursor)

/-- A key and what is read behind it. -/
def entry (key : Except Error κ) (item : Except Error β) : Except Error (κ × β) :=
  match key, item with
  | .error e, _ => .error e
  | .ok _, .error e => .error e
  | .ok k, .ok x => .ok (k, x)

/-- The results are the same, but for the order of the entries of a map. -/
def Agree : Except Error (Bound κ α) → Except Error (Bound κ α) → Prop
  | .ok (.map entries), .ok (.map entries') => entries.Perm entries'
  | .ok (.presence entries), .ok (.presence entries') => entries.Perm entries'
  | result, result' => result = result'

theorem Agree.refl (result : Except Error (Bound κ α)) : Agree result result := by
  unfold Agree
  split
  · simp_all
  · simp_all
  · rfl

variable {c} [DecidableEq κ] {names : List String} {keys : RowReader κ} {values : RowReader α}
  {item : List c.header.Place → Row c.header → Except Error β} {places : List c.header.Place}

theorem collect_eq (read : Row c.header → Except Error α) (put : Array β → α → Array β)
    (expected : Option Nat) : c.collect read put expected =
      ⟨(drain read c.steps).1.map fun xs => (xs.foldl put #[]).toList,
        { c with steps := (drain read c.steps).2 }⟩ := by
  simp only [collect, gather_eq, Array.emptyWithCapacity_eq]
  cases (drain read c.steps).1 <;> rfl

/-- All rows are read, whatever room was made for them. -/
theorem many_eq (reader : RowReader α) (expected : Option Nat) : c.many reader expected =
    ⟨(drain reader.read c.steps).1, { c with steps := (drain reader.read c.steps).2 }⟩ := by
  simp only [many, collect_eq, List.foldl_push_eq_append']
  cases (drain reader.read c.steps).1 <;> simp [Except.map]

end Cursor

end QueryKit
