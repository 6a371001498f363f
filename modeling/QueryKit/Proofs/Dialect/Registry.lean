import Mathlib
import QueryKit.Dialect.Registry
import QueryKit.Proofs.Binding

/-! Registries of dialects by their names. Whatever is registered, a name finds the dialect that was
last registered under it or under a name that differs from it in the case of ASCII letters only. -/

namespace QueryKit

namespace Registry

/-! ### Names without regard to case -/

/-- Two characters are the same, or one ASCII letter in its two cases. -/
def SameLetter (c d : Char) : Prop :=
  c = d ∨ (c.isUpper ∧ d.toNat = c.toNat + 32) ∨ (d.isUpper ∧ c.toNat = d.toNat + 32)

/-- Two names differ in the case of ASCII letters at most. -/
def SameName (s t : String) : Prop :=
  List.Forall₂ SameLetter s.toList t.toList

theorem isUpper_iff (c : Char) : c.isUpper ↔ 65 ≤ c.toNat ∧ c.toNat ≤ 90 := by
  simp [Char.isUpper, UInt32.le_iff_toNat_le]

theorem toNat_toLower (c : Char) :
    c.toLower.toNat = if c.isUpper then c.toNat + 32 else c.toNat := by
  by_cases h : c.isUpper
  · have hrange := (isUpper_iff c).mp h
    have hvalid : (c.toNat + 32).isValidChar := by
      left
      omega
    rw [if_pos h, Char.toLower_eq_of_isUpper h, Char.toNat_ofNat, if_pos hvalid]
  · rw [if_neg h, Char.toLower_eq_of_not_isUpper h]

theorem toLower_eq_iff (c d : Char) : c.toLower = d.toLower ↔ SameLetter c d := by
  simp only [SameLetter, ← Char.toNat_inj, toNat_toLower, isUpper_iff]
  split <;> split <;> omega

theorem key_eq_iff {s t : String} : key s = key t ↔ SameName s t := by
  rw [key, key, String.ofList_inj, ← List.forall₂_eq_eq_eq, List.forall₂_map_left_iff,
    List.forall₂_map_right_iff]
  simp only [toLower_eq_iff]
  rfl

theorem key_eq_self {s : String} (h : ∀ c ∈ s.toList, c.isUpper = false) : key s = s := by
  have hkept : ∀ c ∈ s.toList, c.toLower = c := fun c hc =>
    Char.toLower_eq_of_not_isUpper (by simp [h c hc])
  rw [key, List.map_congr_left hkept, List.map_id', String.ofList_toList]

/-- A name is kept as the one that equals it up to case and has no upper case letter. -/
theorem eq_key_iff {s t : String} :
    t = key s ↔ (∀ c ∈ t.toList, c.isUpper = false) ∧ SameName s t := by
  constructor
  · rintro rfl
    have hlower : ∀ c ∈ (key s).toList, c.isUpper = false := by simp [key]
    exact ⟨hlower, key_eq_iff.mp (key_eq_self hlower).symm⟩
  · rintro ⟨hlower, hsame⟩
    rw [key_eq_iff.mpr hsame, key_eq_self hlower]

/-! ### Places of entries -/

section Entries

variable {name held : String} {d e : Dialect} {entries : List (String × Dialect)}

theorem mem_keys_place : held ∈ (place name d entries).map Prod.fst ↔
    held = name ∨ held ∈ entries.map Prod.fst := by
  fun_induction place name d entries with
  | case1 => simp
  | case2 => simp
  | case3 => simp
  | case4 other e rest hne hlt ih =>
    simp only [List.map_cons, List.mem_cons, ih]
    exact or_left_comm

/-- Entries stay in the order of their names. -/
theorem ascending_place (h : (entries.map Prod.fst).Pairwise (· < ·)) :
    ((place name d entries).map Prod.fst).Pairwise (· < ·) := by
  fun_induction place name d entries with
  | case1 => simp
  | case2 => simpa using h
  | case3 other e rest hne hlt =>
    obtain ⟨hfirst, -⟩ := List.pairwise_cons.mp h
    refine List.pairwise_cons.mpr ⟨List.forall_mem_cons.mpr ⟨hlt, fun held hheld => ?_⟩, h⟩
    exact hlt.trans (hfirst held hheld)
  | case4 other e rest hne hlt ih =>
    obtain ⟨hfirst, hrest⟩ := List.pairwise_cons.mp h
    refine List.pairwise_cons.mpr ⟨fun held hheld => ?_, ih hrest⟩
    rcases mem_keys_place.mp hheld with rfl | hheld
    · exact lt_of_le_of_ne (not_lt.mp hlt) (Ne.symm hne)
    · exact hfirst held hheld

theorem lookup_cons_eq : ((name, d) :: entries).lookup held =
    if held = name then some d else entries.lookup held := by
  by_cases h : held = name
  · simp [h]
  · rw [List.lookup_cons, beq_false_of_ne h, if_neg h]

/-- Whatever the order of the entries, a name finds what was put in its place. -/
theorem lookup_place : (place name d entries).lookup held =
    if held = name then some d else entries.lookup held := by
  fun_induction place name d entries with
  | case1 => exact lookup_cons_eq
  | case2 old rest =>
    rw [lookup_cons_eq, lookup_cons_eq]
    split <;> rfl
  | case3 => exact lookup_cons_eq
  | case4 other old rest hne hlt ih =>
    rw [lookup_cons_eq, lookup_cons_eq, ih]
    by_cases hother : held = other
    · subst hother
      rw [if_pos rfl, if_neg (Ne.symm hne), if_pos rfl]
    · rw [if_neg hother, if_neg hother]

theorem lookup_eq_some_iff_mem (h : (entries.map Prod.fst).Nodup) :
    entries.lookup held = some e ↔ (held, e) ∈ entries := by
  induction entries with
  | nil => simp
  | cons entry rest ih =>
    obtain ⟨name, d⟩ := entry
    rw [List.map_cons, List.nodup_cons] at h
    rw [lookup_cons_eq]
    by_cases hname : held = name
    · subst hname
      have hrest : (held, e) ∉ rest := fun hmem => h.1 (List.mem_map.mpr ⟨_, hmem, rfl⟩)
      simp [hrest, eq_comm]
    · simp [hname, ih h.2]

theorem mem_place (h : (entries.map Prod.fst).Pairwise (· < ·)) :
    (held, e) ∈ place name d entries ↔ held = name ∧ e = d ∨ held ≠ name ∧ (held, e) ∈ entries := by
  rw [← lookup_eq_some_iff_mem (ascending_place h).nodup, lookup_place,
    ← lookup_eq_some_iff_mem h.nodup]
  by_cases hname : held = name <;> simp [hname, eq_comm]

end Entries

/-! ### Calls -/

/-- A call on a registry. -/
inductive Call
  | register (d : Dialect)
  | registerAs (name : String) (d : Dialect)
  | get (name : String)
  | names

/-- The registry that a call leaves. Looking something up leaves it as it is. -/
def apply (r : Registry) : Call → Registry
  | .register d => r.register d
  | .registerAs name d => r.registerAs name d
  | .get _ | .names => r

def run (r : Registry) (calls : List Call) : Registry :=
  calls.foldl apply r

/-- What a call registers, with the name that it gives. -/
def Call.registration? : Call → Option (String × Dialect)
  | register d => some (d.name, d)
  | registerAs name d => some (name, d)
  | get _ | names => none

/-- The registry with some more dialects under their names, one after the other. -/
def registerAll (r : Registry) (more : List (String × Dialect)) : Registry :=
  more.foldl (fun r entry => r.registerAs entry.1 entry.2) r

/-- Lookups have no part in what calls leave. -/
theorem run_eq (r : Registry) (calls : List Call) :
    r.run calls = r.registerAll (calls.filterMap Call.registration?) := by
  induction calls generalizing r with
  | nil => rfl
  | cons c calls ih =>
    rw [run, List.foldl_cons]
    cases c with
    | register d => exact ih (r.register d)
    | registerAs name d => exact ih (r.registerAs name d)
    | get | names => exact ih r

theorem builtins_eq : builtins = registerAll {} (Dialect.builtins.map fun d => (d.name, d)) := by
  rw [builtins, registerAll, List.foldl_map]
  rfl

/-- A registry holds what was registered: the kept names in their order, each with what was last
registered under it. -/
structure Holds (r : Registry) (known : List (String × Dialect)) : Prop where
  ascending : r.names.Pairwise (· < ·)
  mem_names (s : String) : s ∈ r.names ↔ ∃ entry ∈ known, s = key entry.1
  lastWins : LastWins (known.map fun entry => (key entry.1, entry.2)) r.entries

variable {r : Registry} {known : List (String × Dialect)} {name : String} {d : Dialect}

theorem holds_empty : Holds {} [] where
  ascending := .nil
  mem_names := by simp [names]
  lastWins := lastWins_nil

theorem Holds.registerAs (h : r.Holds known) (name : String) (d : Dialect) :
    (r.registerAs name d).Holds (known ++ [(name, d)]) where
  ascending := ascending_place h.ascending
  mem_names s := by
    have hkeys : s ∈ (r.registerAs name d).names ↔ s = key name ∨ s ∈ r.names := mem_keys_place
    rw [hkeys, h.mem_names]
    simp [or_and_right, exists_or, or_comm]
  lastWins := by
    have hsorted : ((place (key name) d r.entries).map Prod.fst).Pairwise (· < ·) :=
      ascending_place h.ascending
    rw [List.map_append]
    exact h.lastWins.update hsorted.nodup fun _ _ => mem_place h.ascending

theorem Holds.registerAll (h : r.Holds known) (more : List (String × Dialect)) :
    (r.registerAll more).Holds (known ++ more) := by
  induction more generalizing r known with
  | nil => simpa [Registry.registerAll] using h
  | cons entry more ih => simpa [Registry.registerAll] using ih (h.registerAs entry.1 entry.2)

theorem get_ok_iff : r.get name = .ok d ↔ r.find? name = some d := by
  unfold get
  cases r.find? name <;> simp

theorem get_error_iff {e : Error} :
    r.get name = .error e ↔ e = .build (.unknownDialect name) ∧ r.find? name = none := by
  unfold get
  cases r.find? name <;> simp [eq_comm]

theorem Holds.find?_eq_some_iff (h : r.Holds known) : r.find? name = some d ↔
    ∃ front other back, known = front ++ (other, d) :: back ∧ SameName other name ∧
      ∀ entry ∈ back, ¬SameName entry.1 name := by
  have habsent (back : List (String × Dialect)) :
      key name ∉ (back.map fun entry => (key entry.1, entry.2)).map Prod.fst ↔
        ∀ entry ∈ back, ¬SameName entry.1 name := by
    simp [← key_eq_iff]
  rw [find?, lookup_eq_some_iff_mem h.lastWins.nodup, h.lastWins.mem_iff]
  constructor
  · rintro ⟨front, back, hsplit, hback⟩
    obtain ⟨front', behind, rfl, -, hbehind⟩ := List.map_eq_append_iff.mp hsplit
    obtain ⟨⟨other, e⟩, back', rfl, hentry, rfl⟩ := List.map_eq_cons_iff.mp hbehind
    obtain ⟨hkey, rfl⟩ := Prod.mk.inj hentry
    exact ⟨front', other, back', rfl, key_eq_iff.mp hkey, (habsent back').mp hback⟩
  · rintro ⟨front, other, back, rfl, hsame, hback⟩
    refine ⟨front.map fun entry => (key entry.1, entry.2), _, ?_, (habsent back).mpr hback⟩
    rw [List.map_append, List.map_cons, key_eq_iff.mpr hsame]

theorem Holds.find?_eq_none_iff (h : r.Holds known) :
    r.find? name = none ↔ ∀ entry ∈ known, ¬SameName entry.1 name := by
  have hnames : r.find? name = none ↔ key name ∉ r.names := by
    rw [find?, List.lookup_eq_none_iff, names, List.mem_map]
    simp only [bne_iff_ne, ne_eq, not_exists, not_and, eq_comm (a := key name)]
  rw [hnames, h.mem_names]
  simp [← key_eq_iff, eq_comm]

end Registry

/-- Whatever is registered, and whatever is looked up in between, a name finds the dialect of the last
registration whose name equals it up to the case of ASCII letters, and there is an error exactly if
there is no such registration. The names are those that were registered, in lower case, in ascending
order and each once. Lookups have no part in what is found. -/
theorem registries_find_what_came_last (withBuiltins : Bool) (calls : List Registry.Call) :
    let start := if withBuiltins then Registry.builtins else {}
    let known := (if withBuiltins then Dialect.builtins.map fun d => (d.name, d) else []) ++
      calls.filterMap Registry.Call.registration?
    let r := start.run calls
    (∀ name d, r.get name = .ok d ↔ ∃ front other back, known = front ++ (other, d) :: back ∧
      Registry.SameName other name ∧ ∀ entry ∈ back, ¬Registry.SameName entry.1 name) ∧
    (∀ name e, r.get name = .error e ↔ e = .build (.unknownDialect name) ∧
      ∀ entry ∈ known, ¬Registry.SameName entry.1 name) ∧
    r.names.Pairwise (· < ·) ∧
    (∀ s, s ∈ r.names ↔ (∀ c ∈ s.toList, c.isUpper = false) ∧
      ∃ entry ∈ known, Registry.SameName entry.1 s) ∧
    r = Registry.registerAll {} known := by
  intro start known r
  have hr : r = Registry.registerAll {} known := by
    have hstart : start = Registry.registerAll {}
        (if withBuiltins then Dialect.builtins.map fun d => (d.name, d) else []) := by
      cases withBuiltins with
      | false => rfl
      | true => exact Registry.builtins_eq
    show start.run calls = _
    rw [Registry.run_eq, hstart, Registry.registerAll, Registry.registerAll, Registry.registerAll,
      List.foldl_append]
  have hholds : r.Holds known := by
    rw [hr]
    exact Registry.holds_empty.registerAll known
  refine ⟨fun name d => ?_, fun name e => ?_, hholds.ascending, fun s => ?_, hr⟩
  · rw [Registry.get_ok_iff, hholds.find?_eq_some_iff]
  · rw [Registry.get_error_iff, hholds.find?_eq_none_iff]
  · rw [hholds.mem_names]
    simp only [Registry.eq_key_iff]
    exact ⟨fun ⟨entry, hentry, hlower, hsame⟩ => ⟨hlower, entry, hentry, hsame⟩,
      fun ⟨hlower, entry, hentry, hsame⟩ => ⟨entry, hentry, hlower, hsame⟩⟩

/-- A built-in dialect is replaced under another spelling of its name, and a name with the Kelvin sign
is not one with the letter. -/
theorem registries_find_what_came_last_spelled :
    let calls : List Registry.Call :=
      [.registerAs "PostgreS" .sqlite, .get "x", .registerAs "\u212Aq" .mysql]
    let r := Registry.builtins.run calls
    r.get "POSTGRES" = .ok .sqlite ∧ r.get "kq" = .error (.build (.unknownDialect "kq")) ∧
      r.names = ["generic", "mysql", "postgres", "sqlite", "sqlserver", "\u212Aq"] := by
  intro calls r
  obtain ⟨hfound, hmissing, -⟩ := registries_find_what_came_last true calls
  have hsame : Registry.SameName "PostgreS" "POSTGRES" := Registry.key_eq_iff.mp (by decide +kernel)
  have hother : ¬Registry.SameName "\u212Aq" "POSTGRES" := fun h =>
    absurd (Registry.key_eq_iff.mpr h) (by decide +kernel)
  refine ⟨(hfound _ _).mpr ⟨Dialect.builtins.map fun d => (d.name, d), "PostgreS",
    [("\u212Aq", .mysql)], rfl, hsame, List.forall_mem_singleton.mpr hother⟩,
    (hmissing _ _).mpr ⟨rfl, fun entry hentry h => ?_⟩, by decide +kernel⟩
  have hkeys : ∀ entry ∈ Dialect.builtins.map (fun d => (d.name, d)) ++
      [("PostgreS", .sqlite), ("\u212Aq", .mysql)], Registry.key entry.1 ≠ Registry.key "kq" := by
    decide +kernel
  exact hkeys entry hentry (Registry.key_eq_iff.mpr h)

end QueryKit
