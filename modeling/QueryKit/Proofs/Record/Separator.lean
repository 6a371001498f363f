import Mathlib.Data.List.Forall2
import QueryKit.Proofs.Count
import QueryKit.Record.Field

/-! Columns of records under different separators. A longer separator makes no name shorter, so two
lists of one record's columns that have the same text are equally long name by name, and then they
are equal. -/

namespace QueryKit

/-! ### Lists of texts -/

section Listing

variable {α : Type} {f : α → List Char} {as bs : List α}

theorem length_flatMap_le
    (h : List.Forall₂ (fun a b => (f a).length ≤ (f b).length) as bs) :
    (as.flatMap f).length ≤ (bs.flatMap f).length := by
  induction h with
  | nil => exact Nat.le_refl _
  | cons hab _ ih =>
    simp only [List.flatMap_cons, List.length_append]
    omega

/-- If no text of a list is longer than its counterpart, equal lists of texts have equal texts. -/
theorem map_eq_of_flatMap_eq
    (h : List.Forall₂ (fun a b => (f a).length ≤ (f b).length) as bs)
    (heq : as.flatMap f = bs.flatMap f) : as.map f = bs.map f := by
  induction h with
  | nil => rfl
  | @cons a b as bs hab htail ih =>
    rw [List.flatMap_cons, List.flatMap_cons] at heq
    have htotal := congrArg List.length heq
    have hrest := length_flatMap_le htail
    rw [List.length_append, List.length_append] at htotal
    obtain ⟨hhead, hmore⟩ := List.append_inj heq (by omega)
    rw [List.map_cons, List.map_cons, hhead, ih hmore]

variable (text : α → String)

/-- The members of a list, each behind a comma. -/
def behindCommas (xs : List α) : List Char :=
  xs.flatMap fun x => ',' :: ' ' :: (text x).toList

theorem behindCommas_append (xs ys : List α) :
    behindCommas text (xs ++ ys) = behindCommas text xs ++ behindCommas text ys :=
  List.flatMap_append

variable {text}

theorem behindCommas_eq {xs : List α} (h : xs ≠ []) :
    behindCommas text xs = ',' :: ' ' :: (listText text xs).toList := by
  induction xs with
  | nil => contradiction
  | cons x xs ih =>
    cases xs with
    | nil => simp [behindCommas, listText]
    | cons y ys =>
      have hrest := ih (List.cons_ne_nil y ys)
      simp only [behindCommas, listText, List.flatMap_cons, List.map_cons,
        String.intercalate_cons_cons, String.toList_append] at hrest ⊢
      rw [hrest]
      simp

theorem behindCommas_eq_iff (ha : as ≠ []) (hb : bs ≠ []) :
    behindCommas text as = behindCommas text bs ↔ listText text as = listText text bs := by
  rw [behindCommas_eq ha, behindCommas_eq hb, List.cons.injEq, List.cons.injEq]
  simp [String.toList_inj]

/-- What stands before and behind a stretch of a list has no part in its text. -/
theorem listText_stretch_iff (front back : List α) (ha : as ≠ []) (hb : bs ≠ []) :
    listText text (front ++ as ++ back) = listText text (front ++ bs ++ back) ↔
      listText text as = listText text bs := by
  rw [← behindCommas_eq_iff (by simp [ha]) (by simp [hb]), ← behindCommas_eq_iff ha hb]
  simp only [behindCommas_append, List.append_assoc, List.append_cancel_left_eq,
    List.append_cancel_right_eq]

end Listing

/-! ### Names in quotes -/

namespace Dialect

variable {d : Dialect}

theorem doubled_injective {close : Char} {cs ds : List Char}
    (h : doubled close cs = doubled close ds) : cs = ds := by
  have hread (es : List Char) : Identifier.readBody close (doubled close es ++ [close]) =
      some (es, []) := Identifier.readBody_doubled (by simp) es
  have hds := hread ds
  rw [← h, hread cs] at hds
  exact (Prod.mk.inj (Option.some.inj hds)).1

/-- The characters of an identifier inside of its quotes, if it has any. -/
def inside (d : Dialect) (s : String) : List Char :=
  match d.quotes with
  | none => s.toList
  | some (_, close) => doubled close s.toList

theorem inside_append (s t : String) : d.inside (s ++ t) = d.inside s ++ d.inside t := by
  unfold inside
  split <;> simp [doubled]

theorem inside_injective {s t : String} (h : d.inside s = d.inside t) : s = t := by
  unfold inside at h
  split at h
  · exact String.toList_inj.mp h
  · exact String.toList_inj.mp (doubled_injective h)

theorem toList_quote_eq (s : String) :
    (d.quote s).toList =
      (d.quotes.map Prod.fst).toList ++ d.inside s ++ (d.quotes.map Prod.snd).toList := by
  unfold quote quoteChars inside
  cases d.quotes <;> simp

theorem quote_injective {s t : String} (h : d.quote s = d.quote t) : s = t := by
  have hchars := congrArg String.toList h
  rw [toList_quote_eq, toList_quote_eq, List.append_cancel_right_eq,
    List.append_cancel_left_eq] at hchars
  exact inside_injective hchars

theorem length_quote_le {s t : String} (h : (d.inside s).length ≤ (d.inside t).length) :
    (d.quote s).toList.length ≤ (d.quote t).toList.length := by
  rw [toList_quote_eq, toList_quote_eq]
  simp only [List.length_append]
  omega

theorem inside_empty : d.inside "" = [] := by
  unfold inside
  split <;> rfl

theorem one_le_length_inside_star : 1 ≤ (d.inside "*").length := by
  unfold inside
  split
  · exact Nat.le_refl _
  · rename_i close _
    by_cases h : '*' = close
    · subst h
      simp [doubled]
    · simp [doubled, h]

/-- No name but the star is written like a bare star. -/
theorem quote_ne_star {s : String} (h : s ≠ "*") : d.quote s ≠ "*" := by
  intro hquote
  have hchars := congrArg String.toList hquote
  cases hd : d.quotes with
  | none => exact h (String.toList_inj.mp (by simpa [toList_quote_eq, inside, hd] using hchars))
  | some q => simp [toList_quote_eq, hd] at hchars

end Dialect

/-! ### Names under separators -/

/-- How the names of one column compare under a shorter and a longer separator. -/
structure Dialect.Fits (d : Dialect) (a b : String) : Prop where
  eq_empty_iff : a = "" ↔ b = ""
  length_le : (d.inside a).length ≤ (d.inside b).length
  eq_star : b = "*" → a = "*"

section Separators

variable {d : Dialect} {a b scope scope' separator separator' : String}

theorem Dialect.Fits.refl (a : String) : d.Fits a a :=
  ⟨Iff.rfl, Nat.le_refl _, id⟩

/-- A text that begins with another one is a star only if that one is, and nothing follows. -/
theorem append_eq_star_iff (h : a ≠ "") : a ++ b = "*" ↔ a = "*" ∧ b = "" := by
  rw [← String.toList_inj, ← String.toList_inj, ← String.toList_inj, String.toList_append]
  show _ = ['*'] ↔ _ = ['*'] ∧ _ = []
  have hne : a.toList ≠ [] := by simpa using h
  simp [List.append_eq_singleton_iff, hne]

theorem scopedName_of_ne (h : scope ≠ "") (separator name : String) :
    scopedName scope separator name = scope ++ (separator ++ name) := by
  simp [scopedName, h, String.append_assoc]

theorem Dialect.Fits.scoped (h : d.Fits scope scope')
    (hle : (d.inside separator).length ≤ (d.inside separator').length) (name : String) :
    d.Fits (scopedName scope separator name) (scopedName scope' separator' name) := by
  by_cases hne : scope = ""
  · rw [h.eq_empty_iff.mp hne, hne]
    exact .refl name
  · have hne' : scope' ≠ "" := mt h.eq_empty_iff.mpr hne
    rw [scopedName_of_ne hne, scopedName_of_ne hne']
    refine ⟨by simp [String.append_eq_empty_iff, hne, hne'], ?_, fun hstar => ?_⟩
    · have := h.length_le
      simp only [inside_append, List.length_append]
      omega
    · obtain ⟨hscope', hrest⟩ := (append_eq_star_iff hne').mp hstar
      obtain ⟨rfl, rfl⟩ := String.append_eq_empty_iff.mp hrest
      have hseparator : separator = "" := by
        rw [inside_empty, List.length_nil, Nat.le_zero, List.length_eq_zero_iff] at hle
        exact inside_injective (hle.trans inside_empty.symm)
      rw [h.eq_star hscope', hseparator]
      rfl

mutual

theorem Field.fits_names (hle : (d.inside separator).length ≤ (d.inside separator').length) :
    (f : Field) → (scope scope' : String) → d.Fits scope scope' →
      List.Forall₂ d.Fits (names separator scope f) (names separator' scope' f)
  | column name, _, _, h => .cons (h.scoped hle name) .nil
  | embedded name fields, _, _, h => by
    simpa [names] using fits_allNames hle fields _ _ (h.scoped hle name)
  | inline fields, _, _, h => by
    simpa [names] using fits_allNames hle fields _ _ h

/-- A longer separator makes no name of a record shorter. -/
theorem Field.fits_allNames (hle : (d.inside separator).length ≤ (d.inside separator').length) :
    (fields : List Field) → (scope scope' : String) → d.Fits scope scope' →
      List.Forall₂ d.Fits (allNames separator scope fields) (allNames separator' scope' fields)
  | [], _, _, _ => .nil
  | f :: fs, _, _, h => by
    rw [allNames, allNames]
    exact List.rel_append (fits_names hle f _ _ h) (fits_allNames hle fs _ _ h)

end

/-- A record has as many columns under one separator as under another. -/
theorem Field.length_allNames (separator separator' : String) (fields : List Field) :
    (allNames separator "" fields).length = (allNames separator' "" fields).length := by
  let d := Dialect.generic
  rcases Nat.le_total (d.inside separator).length (d.inside separator').length with hle | hle
  · exact (fits_allNames hle fields "" "" (.refl "")).length_eq
  · exact (fits_allNames hle fields "" "" (.refl "")).length_eq.symm

/-! ### Columns under separators -/

/-- What stands in front of a name under a table. -/
def Dialect.prefixText (d : Dialect) (table : String) : String :=
  if table.isEmpty then "" else d.quote table ++ "."

theorem Dialect.prefixText_empty : d.prefixText "" = "" :=
  rfl

theorem Dialect.prefixText_of_ne {table : String} (h : table ≠ "") :
    d.prefixText table = d.quote table ++ "." := by
  simp [prefixText, h]

theorem Column.text_qualified (table name : String) :
    (Column.qualified (some table) name).text d =
      d.prefixText table ++ if name = "*" then "*" else d.quote name := by
  by_cases h : table = ""
  · subst h
    exact (text_path_singleton d name).trans String.empty_append.symm
  · simp [qualified, h, Dialect.prefixText_of_ne, text_path_cons, text_path_singleton]

theorem Column.text_qualified_injective {table : String}
    (h : (Column.qualified (some table) a).text d = (Column.qualified (some table) b).text d) :
    a = b := by
  rw [text_qualified, text_qualified, ← String.toList_inj, String.toList_append,
    String.toList_append, List.append_cancel_left_eq, String.toList_inj] at h
  by_cases ha : a = "*" <;> by_cases hb : b = "*"
  · rw [ha, hb]
  · rw [if_pos ha, if_neg hb] at h
    exact absurd h.symm (Dialect.quote_ne_star hb)
  · rw [if_neg ha, if_pos hb] at h
    exact absurd h (Dialect.quote_ne_star ha)
  · rw [if_neg ha, if_neg hb] at h
    exact Dialect.quote_injective h

theorem Dialect.Fits.length_text_le (h : d.Fits a b) (table : String) :
    ((Column.qualified (some table) a).text d).toList.length ≤
      ((Column.qualified (some table) b).text d).toList.length := by
  rw [Column.text_qualified, Column.text_qualified, String.toList_append, String.toList_append,
    List.length_append, List.length_append]
  refine Nat.add_le_add_left ?_ _
  by_cases hb : b = "*"
  · exact Nat.le_of_eq (by rw [h.eq_star hb, hb])
  · rw [if_neg hb]
    by_cases ha : a = "*"
    · -- A star is written bare: it takes no more room than any name in quotes.
      have hone : "*".toList.length ≤ (d.inside "*").length := one_le_length_inside_star
      have hstar := h.length_le
      rw [ha] at hstar
      rw [if_pos ha, toList_quote_eq]
      simp only [List.length_append]
      omega
    · rw [if_neg ha]
      exact length_quote_le h.length_le

variable {fields : List Field} {table : String}

theorem names_eq_of_texts_eq_of_le
    (hle : (d.inside separator).length ≤ (d.inside separator').length)
    (h : listText (Column.text d) (Field.columns fields table separator) =
      listText (Column.text d) (Field.columns fields table separator')) :
    Field.allNames separator "" fields = Field.allNames separator' "" fields := by
  have hfits := Field.fits_allNames hle fields "" "" (.refl "")
  rw [Field.columns, Field.columns] at h
  generalize Field.allNames separator "" fields = names at h hfits ⊢
  generalize Field.allNames separator' "" fields = names' at h hfits ⊢
  cases hfits with
  | nil => rfl
  | @cons name name' names names' hhead htail =>
    let written (name : String) : List Char :=
      ',' :: ' ' :: ((Column.qualified (some table) name).text d).toList
    have hwritten : (name :: names).flatMap written = (name' :: names').flatMap written := by
      have hcommas := (behindCommas_eq_iff (by simp) (by simp)).mpr h
      simpa only [behindCommas, List.flatMap_map] using hcommas
    have hmap := map_eq_of_flatMap_eq
      ((List.Forall₂.cons hhead htail).imp fun a b hab => ?_) hwritten
    · refine List.map_injective_iff.mpr (fun a b hab => ?_) hmap
      simp only [written, List.cons.injEq, true_and, String.toList_inj] at hab
      exact Column.text_qualified_injective hab
    · simpa [written] using hab.length_text_le table

/-- The columns of a record have the same text under two separators only if they have the same
names. -/
theorem Field.texts_eq_iff :
    listText (Column.text d) (Field.columns fields table separator) =
        listText (Column.text d) (Field.columns fields table separator') ↔
      Field.allNames separator "" fields = Field.allNames separator' "" fields := by
  refine ⟨fun h => ?_, fun h => by rw [Field.columns, Field.columns, h]⟩
  rcases Nat.le_total (d.inside separator).length (d.inside separator').length with hle | hle
  · exact names_eq_of_texts_eq_of_le hle h
  · exact (names_eq_of_texts_eq_of_le hle h.symm).symm

end Separators

end QueryKit
