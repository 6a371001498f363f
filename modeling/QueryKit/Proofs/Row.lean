import QueryKit.Proofs.Check
import QueryKit.Row.Basic
import Mathlib.Data.Fin.Tuple.Basic
import Mathlib.Data.List.Nodup

/-! Where names stand in a row. A name is found at the first place that bears it, and it is not
found exactly if no place does. Values make up a row if there is one for each place. -/

namespace QueryKit

/-- A name keeps its first entry. -/
theorem lookup_enter {α : Type} (held key : String) (x : α) (entries : List (String × α)) :
    (enter held x entries).lookup key =
      (entries.lookup key).or (if held = key then some x else none) := by
  induction entries with
  | nil =>
    rw [enter, List.lookup_cons, List.lookup_nil, Option.none_or]
    by_cases hkey : held = key
    · rw [hkey, beq_self_eq_true, if_pos rfl]
    · rw [beq_false_of_ne (Ne.symm hkey), if_neg hkey]
  | cons entry rest ih =>
    obtain ⟨first, y⟩ := entry
    rw [enter]
    split
    · rename_i hfirst
      by_cases hkey : held = key <;> simp [hfirst, hkey]
    · rename_i hfirst
      rw [List.lookup_cons, List.lookup_cons, ih]
      cases key == first <;> rfl

namespace Header

variable {h : Header} {name : String} {i j : h.Place}

/-- The place is the first one that bears the name. -/
def IsFirst (h : Header) (name : String) (i : h.Place) : Prop :=
  h.names.get i = name ∧ ∀ j < i, h.names.get j ≠ name

/-- What was entered from some places on is what was there, or the first of the places that bears
the name. -/
theorem lookup_foldl_enter (places : List h.Place) (entries : List (String × h.Place)) :
    (places.foldl (fun entries i => enter (h.names.get i) i entries) entries).lookup name =
      (entries.lookup name).or (places.find? fun i => h.names.get i = name) := by
  induction places generalizing entries with
  | nil => simp
  | cons i places ih =>
    rw [List.foldl_cons, ih, lookup_enter, Option.or_assoc, List.find?_cons]
    by_cases hi : h.names.get i = name <;> simp [-List.get_eq_getElem, hi]

theorem position?_eq_find? (h : Header) (name : String) :
    h.position? name = Fin.find? fun i : h.Place => h.names.get i = name := by
  rw [Fin.find?_eq_find?_finRange, position?, index, lookup_foldl_enter]
  rfl

theorem position?_eq_some_iff : h.position? name = some i ↔ h.IsFirst name i := by
  rw [position?_eq_find?, Fin.find?_eq_some_iff]
  simp [IsFirst]

theorem position?_eq_none_iff : h.position? name = none ↔ name ∉ h.names := by
  rw [position?_eq_find?, Fin.find?_eq_none_iff, List.mem_iff_get]
  simp

theorem IsFirst.unique (hi : h.IsFirst name i) (hj : h.IsFirst name j) : i = j :=
  Option.some.inj ((position?_eq_some_iff.mpr hi).symm.trans (position?_eq_some_iff.mpr hj))

theorem IsFirst.mem (hi : h.IsFirst name i) : name ∈ h.names :=
  hi.1 ▸ List.get_mem h.names i

/-- Where names do not repeat, every place is the first one of its name. -/
theorem isFirst_of_nodup (hn : h.names.Nodup) (i : h.Place) : h.IsFirst (h.names.get i) i := by
  refine ⟨rfl, fun j hj hji => ?_⟩
  have hval : j.val = i.val := hn.getElem_inj_iff.mp hji
  exact Fin.ne_of_lt hj (Fin.ext hval)

end Header

theorem Row.ofValues_ok_iff {h : Header} {values : List Value} {row : Row h} :
    ofValues h values = .ok row ↔ values = row.values := by
  obtain ⟨held, hlength⟩ := row
  unfold ofValues
  constructor
  · intro hok
    split at hok
    · cases hok
      rfl
    · contradiction
  · rintro rfl
    rw [dif_pos hlength]

end QueryKit
