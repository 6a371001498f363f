import Mathlib.Data.List.Induction
import QueryKit.Proofs.Count

/-! Lists of tables made by adding one table after the other. Every name stands once, in the order in
which the names first came, and bears the last alias that came with it. -/

namespace QueryKit

namespace Tables

/-- The list that some additions make, one after the other. -/
def ofAdditions (calls : List Table) : Tables :=
  calls.foldl (fun ts t => ts.add t) []

/-- The last alias that came with a name. -/
def lastAlias? (calls : List Table) (name : String) : Option String :=
  ((calls.filter fun t => t.name = name).filterMap Table.aliasName).getLast?

variable {ts : Tables} {t : Table} {calls : List Table}

/-! ### One addition -/

/-- A table with the alias of an addition of its name, if that has one. -/
def merged (t held : Table) : Table :=
  if held.name = t.name then ⟨held.name, t.aliasName.or held.aliasName⟩ else held

theorem name_merged (t held : Table) : (merged t held).name = held.name := by
  unfold merged
  split <;> rfl

theorem merged_of_none (h : t.aliasName = none) (held : Table) : merged t held = held := by
  simp [merged, h]

theorem add_of_notMem (h : t.name ∉ ts.map Table.name) : ts.add t = ts ++ [t] := by
  induction ts with
  | nil => rfl
  | cons held rest ih =>
    rw [List.map_cons, List.mem_cons, not_or] at h
    rw [add, if_neg (Ne.symm h.1), ih h.2]
    rfl

theorem add_of_mem (hn : (ts.map Table.name).Nodup) (h : t.name ∈ ts.map Table.name) :
    ts.add t = ts.map (merged t) := by
  induction ts with
  | nil => simp at h
  | cons held rest ih =>
    rw [List.map_cons, List.nodup_cons] at hn
    rw [add, List.map_cons, merged]
    by_cases hheld : held.name = t.name
    · -- The names behind the first one are others, so that nothing is merged there.
      have hothers : ∀ u ∈ rest, merged t u = u := fun u hu =>
        if_neg fun hu' => hn.1 (List.mem_map.mpr ⟨u, hu, hu'.trans hheld.symm⟩)
      rw [if_pos hheld, if_pos hheld, List.map_congr_left hothers, List.map_id']
    · have hmem : t.name ∈ rest.map Table.name := by simpa [Ne.symm hheld] using h
      rw [if_neg hheld, if_neg hheld, ih hn.2 hmem]

theorem names_add_of_mem (hn : (ts.map Table.name).Nodup) (h : t.name ∈ ts.map Table.name) :
    (ts.add t).map Table.name = ts.map Table.name := by
  rw [add_of_mem hn h, List.map_map]
  exact List.map_congr_left fun held _ => name_merged t held

theorem lastAlias?_append_singleton (calls : List Table) (t : Table) (name : String) :
    lastAlias? (calls ++ [t]) name =
      if t.name = name then t.aliasName.or (lastAlias? calls name) else lastAlias? calls name := by
  unfold lastAlias?
  by_cases h : t.name = name
  · cases halias : t.aliasName <;> simp [h, halias]
  · simp [h]

theorem lastAlias?_of_notMem {name : String} (h : name ∉ calls.map Table.name) :
    lastAlias? calls name = none := by
  have hnone : calls.filter (fun t => t.name = name) = [] :=
    List.filter_eq_nil_iff.mpr fun t ht hname =>
      h (List.mem_map.mpr ⟨t, ht, of_decide_eq_true hname⟩)
  rw [lastAlias?, hnone]
  rfl

/-- A list holds what was added: each name once, in the order in which the names first came, with the
last alias that came with it. -/
structure Holds (ts : Tables) (calls : List Table) : Prop where
  mem_iff (name : String) : name ∈ ts.map Table.name ↔ name ∈ calls.map Table.name
  ordered : (ts.map Table.name).Pairwise fun a b =>
    (calls.map Table.name).idxOf a < (calls.map Table.name).idxOf b
  aliased : ∀ t ∈ ts, t.aliasName = lastAlias? calls t.name

theorem Holds.nodup (h : ts.Holds calls) : (ts.map Table.name).Nodup :=
  h.ordered.imp fun {a b} hlt (heq : a = b) => Nat.lt_irrefl _ (heq ▸ hlt)

/-- Where a name came first does not depend on what comes later. -/
theorem Holds.ordered_append (h : ts.Holds calls) (t : Table) :
    (ts.map Table.name).Pairwise fun a b =>
      ((calls ++ [t]).map Table.name).idxOf a < ((calls ++ [t]).map Table.name).idxOf b := by
  refine h.ordered.imp_of_mem fun ha hb hab => ?_
  rwa [List.map_append, List.idxOf_append_of_mem ((h.mem_iff _).mp ha),
    List.idxOf_append_of_mem ((h.mem_iff _).mp hb)]

theorem Holds.add_of_mem (h : ts.Holds calls) (hmem : t.name ∈ ts.map Table.name) :
    (ts.add t).Holds (calls ++ [t]) := by
  have hnames := names_add_of_mem h.nodup hmem
  refine ⟨fun name => ?_, hnames ▸ h.ordered_append t, ?_⟩
  · have hold : t.name ∈ calls.map Table.name := (h.mem_iff t.name).mp hmem
    rw [hnames, h.mem_iff, List.map_append, List.mem_append, List.map_singleton,
      List.mem_singleton]
    exact ⟨.inl, fun hname => hname.elim id fun heq => heq ▸ hold⟩
  · rw [Tables.add_of_mem h.nodup hmem]
    intro u hu
    obtain ⟨held, hheld, rfl⟩ := List.mem_map.mp hu
    rw [name_merged, lastAlias?_append_singleton, ← h.aliased held hheld, merged]
    by_cases hname : held.name = t.name
    · rw [if_pos hname, if_pos hname.symm]
    · rw [if_neg hname, if_neg (Ne.symm hname)]

theorem Holds.add_of_notMem (h : ts.Holds calls) (hnone : t.name ∉ ts.map Table.name) :
    (ts.add t).Holds (calls ++ [t]) := by
  have hnew : t.name ∉ calls.map Table.name := mt (h.mem_iff t.name).mpr hnone
  rw [Tables.add_of_notMem hnone]
  refine ⟨fun name => ?_, ?_, fun u hu => ?_⟩
  · simp only [List.map_append, List.mem_append, h.mem_iff]
  · have hnames : (ts ++ [t]).map Table.name = ts.map Table.name ++ [t.name] := List.map_append
    rw [hnames, List.pairwise_append]
    refine ⟨h.ordered_append t, List.pairwise_singleton _ _, fun a ha b hb => ?_⟩
    obtain rfl := List.mem_singleton.mp hb
    have hold := (h.mem_iff a).mp ha
    rw [List.map_append, List.idxOf_append_of_mem hold, List.idxOf_append_of_notMem hnew]
    exact Nat.lt_add_right _ (List.idxOf_lt_length_iff.mpr hold)
  · rw [lastAlias?_append_singleton]
    rcases List.mem_append.mp hu with hu | hu
    · have hne : t.name ≠ u.name := fun heq => hnone (heq ▸ List.mem_map_of_mem hu)
      rw [if_neg hne, h.aliased u hu]
    · obtain rfl := List.mem_singleton.mp hu
      rw [if_pos rfl, lastAlias?_of_notMem hnew, Option.or_none]

theorem Holds.add (h : ts.Holds calls) (t : Table) : (ts.add t).Holds (calls ++ [t]) := by
  by_cases hmem : t.name ∈ ts.map Table.name
  · exact h.add_of_mem hmem
  · exact h.add_of_notMem hmem

/-! ### Any additions -/

theorem holds_ofAdditions (calls : List Table) : (ofAdditions calls).Holds calls := by
  induction calls using List.reverseRecOn with
  | nil => exact ⟨fun _ => Iff.rfl, .nil, List.forall_mem_nil _⟩
  | append_singleton calls t ih =>
    rw [ofAdditions, List.foldl_append]
    exact ih.add t

/-- An addition without an alias leaves every entry as it is. -/
theorem prefix_add (hn : (ts.map Table.name).Nodup) (h : t.aliasName = none) : ts <+: ts.add t := by
  by_cases hmem : t.name ∈ ts.map Table.name
  · have hsame : ts.add t = ts := by
      rw [add_of_mem hn hmem, List.map_congr_left fun held _ => merged_of_none h held, List.map_id']
    exact ⟨[], (List.append_nil ts).trans hsame.symm⟩
  · exact ⟨[t], (add_of_notMem hmem).symm⟩

theorem prefix_ofAdditions (calls : List Table) {more : List Table}
    (h : ∀ t ∈ more, t.aliasName = none) : ofAdditions calls <+: ofAdditions (calls ++ more) := by
  induction more using List.reverseRecOn with
  | nil => simp
  | append_singleton more t ih =>
    obtain ⟨hmore, ht⟩ := List.forall_mem_append.mp h
    have hlast : ofAdditions (calls ++ (more ++ [t])) = (ofAdditions (calls ++ more)).add t := by
      simp [ofAdditions]
    rw [hlast]
    exact (ih hmore).trans
      (prefix_add (holds_ofAdditions _).nodup (ht t (List.mem_singleton_self t)))

end Tables

/-- Whatever tables are added, the list has each of their names once, in the order in which they first
came, with the last alias that came with the name, if any did. It is written as its entries with
commas between them. Further additions without an alias leave all entries as they are and only put
new ones behind them. -/
theorem tables_are_listed_once (calls : List Table) :
    let ts := Tables.ofAdditions calls
    let names := calls.map Table.name
    (ts.map Table.name).Nodup ∧ (∀ name, name ∈ ts.map Table.name ↔ name ∈ names) ∧
    ((ts.map Table.name).Pairwise fun a b => names.idxOf a < names.idxOf b) ∧
    (∀ t ∈ ts, t.aliasName = Tables.lastAlias? calls t.name) ∧
    (∀ d bound, ts.fragment.operands d = [] ∧
      ts.fragment.render d bound = listText (Table.text d) ts) ∧
    ∀ more, (∀ t ∈ more, t.aliasName = none) → ts <+: Tables.ofAdditions (calls ++ more) := by
  intro ts names
  have hts := Tables.holds_ofAdditions calls
  refine ⟨hts.nodup, hts.mem_iff, hts.ordered, hts.aliased, fun d bound => ?_,
    fun more hmore => Tables.prefix_ofAdditions calls hmore⟩
  have hwrites : Fragment.Writes d ts.fragment (listText (Table.text d) ts) :=
    Fragment.writes_separated ", " writes_table
  exact ⟨hwrites.operands_eq, hwrites.render_eq bound⟩

/-- A name comes three times, first with an alias, then with another one, and last without any. -/
theorem tables_are_listed_once_aliased :
    let calls : List Table := [⟨"a", some "x"⟩, ⟨"b", none⟩, ⟨"a", some "y"⟩]
    let more : List Table := [⟨"a", none⟩, ⟨"c", none⟩]
    (∀ t ∈ more, t.aliasName = none) ∧
      Tables.ofAdditions calls <+: Tables.ofAdditions (calls ++ more) ∧
      Tables.ofAdditions (calls ++ more) = [⟨"a", some "y"⟩, ⟨"b", none⟩, ⟨"c", none⟩] ∧
      (Tables.ofAdditions calls).fragment.render .mysql 0 =
        "\x60a\x60 AS \x60y\x60, \x60b\x60" := by
  intro calls more
  obtain ⟨-, -, -, -, hwritten, hmore⟩ := tables_are_listed_once calls
  have hplain : ∀ t ∈ more, t.aliasName = none := by decide
  refine ⟨hplain, hmore more hplain, by decide, (hwritten .mysql 0).2.trans ?_⟩
  decide +kernel

end QueryKit
