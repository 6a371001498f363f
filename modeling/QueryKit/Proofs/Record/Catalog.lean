import Mathlib.Data.List.Basic
import Mathlib.Data.Set.Function
import QueryKit.Record.Catalog

/-! Catalogs of the columns of record types. A request is answered with the columns that its own
type, table and separator give, whatever was requested before, and two requests share a list exactly
if they ask for the same. -/

namespace QueryKit

/-! ### Names by paths -/

namespace Field

mutual

/-- The columns of a field in the order of their declaration, each as its name behind the names of
the records that it is embedded in, the outermost in front. -/
def paths : Field → List (List String)
  | column name => [[name]]
  | embedded name fields => (allPaths fields).map (name :: ·)
  | inline fields => allPaths fields

def allPaths : List Field → List (List String)
  | [] => []
  | f :: fs => paths f ++ allPaths fs

end

/-- The name of a column in a result: the names of its path with separators between them, from the
first name that is not empty on. -/
def pathName (separator : String) (path : List String) : String :=
  String.intercalate separator (path.dropWhile String.isEmpty)

variable {separator scope : String}

theorem foldl_scopedName (h : scope ≠ "") (path : List String) :
    path.foldl (fun outer name => scopedName outer separator name) scope =
      String.intercalate separator (scope :: path) := by
  induction path generalizing scope with
  | nil => simp
  | cons name path ih =>
    have hscoped : scopedName scope separator name = scope ++ separator ++ name := by
      simp [scopedName, h]
    have hne : scope ++ separator ++ name ≠ "" := by simp [h]
    rw [List.foldl_cons, hscoped, ih hne]
    cases path <;> simp [String.intercalate_cons_cons, String.append_assoc]

/-- Going through the records around a column one by one gives the name of its path. -/
theorem foldl_scopedName_empty (path : List String) :
    path.foldl (fun outer name => scopedName outer separator name) "" =
      pathName separator path := by
  induction path with
  | nil => rfl
  | cons name path ih =>
    have hscoped : scopedName "" separator name = name := rfl
    rw [List.foldl_cons, hscoped]
    by_cases h : name = ""
    · rw [h, ih]
      rfl
    · rw [foldl_scopedName h, pathName, List.dropWhile_cons_of_neg (by simpa using h)]

mutual

theorem names_eq (separator scope : String) : (f : Field) →
    names separator scope f =
      (paths f).map (List.foldl (fun outer name => scopedName outer separator name) scope)
  | column name => rfl
  | embedded name fields => by
    simp [names, paths, allNames_eq separator _ fields, Function.comp_def]
  | inline fields => by simp [names, paths, allNames_eq separator scope fields]

theorem allNames_eq (separator scope : String) : (fields : List Field) →
    allNames separator scope fields =
      (allPaths fields).map (List.foldl (fun outer name => scopedName outer separator name) scope)
  | [] => rfl
  | f :: fs => by simp [allNames, allPaths, names_eq separator scope f, allNames_eq separator scope fs]

end

/-- The columns of a record are those of its paths. Each name is one part of a reference, alone or
under the table. -/
theorem columns_eq (fields : List Field) (table separator : String) :
    columns fields table separator = (allPaths fields).map fun path =>
      if table = "" then .path [pathName separator path]
      else .path [table, pathName separator path] := by
  simp only [columns, allNames_eq, List.map_map]
  refine List.map_congr_left fun path _ => ?_
  simp [Column.qualified, Column.named, foldl_scopedName_empty]

end Field

/-! ### Requests -/

namespace Catalog

variable {τ : Type} [DecidableEq τ] (fields : τ → List Field)

/-- The answers to some requests one after the other, and the catalog that they leave. -/
def requests (c : Catalog τ) : List (Key τ) → List Listing × Catalog τ
  | [] => ([], c)
  | key :: keys =>
    let (listing, c') := c.request fields key
    let (listings, last) := requests c' keys
    (listing :: listings, last)

/-- Every list is that of the type, the table and the separator that it is kept under. -/
def Sound (c : Catalog τ) : Prop :=
  ∀ entry ∈ c.entries,
    entry.2 = Field.columns (fields entry.1.type) entry.1.table entry.1.separator

variable {fields} {c : Catalog τ} {key held : Key τ} {listing : Listing}

theorem Sound.request (h : c.Sound fields) (key : Key τ) : (c.request fields key).2.Sound fields := by
  unfold Catalog.request
  split
  · exact h
  · exact List.forall_mem_cons.mpr ⟨rfl, h⟩

theorem Sound.requests (h : c.Sound fields) (keys : List (Key τ)) :
    (c.requests fields keys).2.Sound fields := by
  induction keys generalizing c with
  | nil => exact h
  | cons key keys ih => exact ih (h.request key)

theorem lookup_request (c : Catalog τ) (key : Key τ) :
    lookup key (c.request fields key).2.entries = some (c.request fields key).1 := by
  unfold request
  split
  · assumption
  · simp [lookup]

/-- What is listed stays listed at its place. -/
theorem lookup_request_of_some (h : lookup held c.entries = some listing) (key : Key τ) :
    lookup held (c.request fields key).2.entries = some listing := by
  unfold request
  split
  · exact h
  · have hne : key ≠ held := by
      rintro rfl
      simp_all
    simp [lookup, hne, h]

theorem lookup_requests_of_some (h : lookup held c.entries = some listing) (keys : List (Key τ)) :
    lookup held (c.requests fields keys).2.entries = some listing := by
  induction keys generalizing c with
  | nil => exact h
  | cons key keys ih => exact ih (lookup_request_of_some h key)

/-- Every answer is what the catalog lists in the end. -/
theorem map_some_requests (c : Catalog τ) (keys : List (Key τ)) :
    (c.requests fields keys).1.map some =
      keys.map fun key => lookup key (c.requests fields keys).2.entries := by
  induction keys generalizing c with
  | nil => rfl
  | cons key keys ih =>
    have hfirst : lookup key (requests fields (c.request fields key).2 keys).2.entries =
        some (c.request fields key).1 := lookup_requests_of_some (lookup_request c key) keys
    simp only [requests, List.map_cons, ih, hfirst]

/-- A listing stands at its place, counted from the end. -/
theorem getElem?_of_lookup {entries : List (Key τ × List Column)}
    (h : lookup key entries = some listing) :
    entries.reverse[listing.place]? = some (key, listing.columns) := by
  induction entries with
  | nil => simp [lookup] at h
  | cons entry rest ih =>
    obtain ⟨held, columns⟩ := entry
    rw [lookup] at h
    split at h
    · obtain rfl := Option.some.inj h
      simp [*]
    · have hrest := ih h
      have hinside := (List.getElem?_eq_some_iff.mp hrest).1
      rw [List.reverse_cons, List.getElem?_append_left hinside, hrest]

theorem Sound.columns_eq (h : c.Sound fields) (hl : lookup key c.entries = some listing) :
    listing.columns = Field.columns (fields key.type) key.table key.separator :=
  h _ (List.mem_reverse.mp (List.mem_of_getElem? (getElem?_of_lookup hl)))

/-- A sound catalog answers every request with its own columns, at a place of their own. -/
theorem Sound.answers_eq (h : c.Sound fields) (keys : List (Key τ)) :
    ∃ place : Key τ → Nat, Set.InjOn place { key | key ∈ keys } ∧
      (c.requests fields keys).1 = keys.map fun key =>
        ⟨place key, Field.columns (fields key.type) key.table key.separator⟩ := by
  have hanswers : (c.requests fields keys).1.map some =
      keys.map fun key => lookup key (c.requests fields keys).2.entries := map_some_requests c keys
  have hlast := h.requests keys
  generalize (c.requests fields keys).2 = last at hanswers hlast
  have hlisted : ∀ key ∈ keys, ∃ listing, lookup key last.entries = some listing := by
    intro key hkey
    have hmem := List.mem_map_of_mem (f := fun key => lookup key last.entries) hkey
    rw [← hanswers] at hmem
    obtain ⟨listing, -, hlisting⟩ := List.mem_map.mp hmem
    exact ⟨listing, hlisting.symm⟩
  refine ⟨fun key => ((lookup key last.entries).map Listing.place).getD 0, ?_, ?_⟩
  · intro key hkey other hother hplace
    obtain ⟨listing, hlisting⟩ := hlisted key hkey
    obtain ⟨listing', hlisting'⟩ := hlisted other hother
    simp only [hlisting, hlisting', Option.map_some, Option.getD_some] at hplace
    have hentry := getElem?_of_lookup hlisting
    rw [hplace, getElem?_of_lookup hlisting'] at hentry
    exact (congrArg Prod.fst (Option.some.inj hentry)).symm
  · refine List.map_injective_iff.mpr (Option.some_injective _) ?_
    rw [hanswers, List.map_map]
    refine List.map_congr_left fun key hkey => ?_
    obtain ⟨listing, hlisting⟩ := hlisted key hkey
    simp [hlisting, ← hlast.columns_eq hlisting]

end Catalog

/-- However columns are requested, each request is answered with the columns of its own type in the
order of their declaration. A column has one name, made from its path with the separator of the
request, and stands under the table of the request unless that is empty. Requests that came before
have no part in it. Two requests share a list exactly if they are for the same type, table and
separator. -/
theorem requests_are_answered_alone {τ : Type} [DecidableEq τ] (fields : τ → List Field)
    (keys : List (Catalog.Key τ)) :
    let columns (key : Catalog.Key τ) : List Column :=
      (Field.allPaths (fields key.type)).map fun path =>
        if key.table = "" then .path [Field.pathName key.separator path]
        else .path [key.table, Field.pathName key.separator path]
    let answers := (Catalog.requests fields {} keys).1
    (∃ place : Catalog.Key τ → Nat, Set.InjOn place { key | key ∈ keys } ∧
      answers = keys.map fun key => ⟨place key, columns key⟩) ∧
    ∀ before, let c := (Catalog.requests fields {} before).2
      (c.requests fields keys).1.map Catalog.Listing.columns =
        answers.map Catalog.Listing.columns := by
  have hempty : Catalog.Sound fields {} := List.forall_mem_nil _
  simp only [← Field.columns_eq]
  refine ⟨hempty.answers_eq keys, fun before => ?_⟩
  obtain ⟨place, -, hplace⟩ := hempty.answers_eq keys
  obtain ⟨place', -, hplace'⟩ := (hempty.requests before).answers_eq keys
  simp [hplace, hplace', Function.comp_def]

/-- A record is requested under a table, alone with another separator, and under the table again. -/
theorem requests_are_answered_alone_repeated :
    let city : List Field := [.column "city"]
    let user : List Field := [.column "id", .embedded "address" city, .inline city]
    let keys : List (Catalog.Key Bool) :=
      [⟨true, "u", "_"⟩, ⟨false, "u", "_"⟩, ⟨true, "", "."⟩, ⟨true, "u", "_"⟩]
    let answers := (Catalog.requests (fun full => if full then user else city) {} keys).1
    ∃ a b c, a ≠ b ∧ a ≠ c ∧ b ≠ c ∧ answers =
      [⟨a, [.path ["u", "id"], .path ["u", "address_city"], .path ["u", "city"]]⟩,
        ⟨b, [.path ["u", "city"]]⟩,
        ⟨c, [.path ["id"], .path ["address.city"], .path ["city"]]⟩,
        ⟨a, [.path ["u", "id"], .path ["u", "address_city"], .path ["u", "city"]]⟩] := by
  intro city user keys answers
  obtain ⟨⟨place, hplace, hanswers⟩, -⟩ :=
    requests_are_answered_alone (fun full => if full then user else city) keys
  have hne (key other : Catalog.Key Bool) (hkey : key ∈ keys) (hother : other ∈ keys)
      (h : key ≠ other) : place key ≠ place other := fun heq => h (hplace hkey hother heq)
  refine ⟨place ⟨true, "u", "_"⟩, place ⟨false, "u", "_"⟩, place ⟨true, "", "."⟩, ?_, ?_, ?_,
    hanswers.trans rfl⟩
  · exact hne _ _ (by decide) (by decide) (by decide)
  · exact hne _ _ (by decide) (by decide) (by decide)
  · exact hne _ _ (by decide) (by decide) (by decide)

end QueryKit
