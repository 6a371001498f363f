import QueryKit.Condition
import QueryKit.Proofs.Fragment
import Mathlib.Data.List.Forall2

/-! Texts with holes. The text of a fragment is a text whose holes are filled with placeholders
numbered from one, and the operands of the fragment are the values of the holes in their order. A
fragment lays out a list of sites if its holes are those of the sites, each right behind the text
that leads to it. -/

namespace QueryKit

/-- A text with a hole for each of several values. -/
inductive Holed
  | plain (text : String)
  | hole (text : String) (value : Value) (rest : Holed)

/-- The place of an operand: the text right in front of it, and its value. -/
structure Site where
  lead : String
  value : Value

namespace Holed

/-- The text with the placeholders in its holes, numbered after those already bound. -/
def fill (d : Dialect) (bound : Nat) : Holed → String
  | plain text => text
  | hole text _ rest => text ++ d.placeholder (bound + 1) ++ rest.fill d (bound + 1)

def values : Holed → List Value
  | plain _ => []
  | hole _ v rest => v :: rest.values

def append : Holed → Holed → Holed
  | plain text, plain more => plain (text ++ more)
  | plain text, hole more v rest => hole (text ++ more) v rest
  | hole text v rest, h => hole text v (rest.append h)

/-- The holes are those of the sites: each has the value of its site and stands right behind the
text that leads to it. -/
def Fits : Holed → List Site → Prop
  | plain _, [] => True
  | hole text v rest, site :: sites =>
    v = site.value ∧ (∃ front, text = front ++ site.lead) ∧ rest.Fits sites
  | _, _ => False

@[simp] theorem values_append (h h' : Holed) : (h.append h').values = h.values ++ h'.values := by
  induction h with
  | plain text => cases h' <;> rfl
  | hole text v rest ih => simp [append, values, ih]

theorem append_assoc (h h' h'' : Holed) :
    (h.append h').append h'' = h.append (h'.append h'') := by
  induction h with
  | plain text =>
    cases h' with
    | plain more => cases h'' <;> simp [append, String.append_assoc]
    | hole more v rest => rfl
  | hole text v rest ih => simp [append, ih]

@[simp] theorem plain_empty_append (h : Holed) : (plain "").append h = h := by
  cases h <;> simp [append]

theorem fill_append (d : Dialect) (bound : Nat) (h h' : Holed) :
    (h.append h').fill d bound = h.fill d bound ++ h'.fill d (bound + h.values.length) := by
  induction h generalizing bound with
  | plain text =>
    cases h' <;> simp [append, fill, values, String.append_assoc]
  | hole text v rest ih =>
    simp only [append, fill, values, List.length_cons, ih, String.append_assoc]
    rw [show bound + 1 + rest.values.length = bound + (rest.values.length + 1) by omega]

theorem Fits.values {h : Holed} {sites : List Site} (hf : h.Fits sites) :
    h.values = sites.map Site.value := by
  induction h generalizing sites with
  | plain text =>
    cases sites with
    | nil => rfl
    | cons => exact absurd hf (by simp [Fits])
  | hole text v rest ih =>
    cases sites with
    | nil => exact absurd hf (by simp [Fits])
    | cons site sites =>
      obtain ⟨rfl, -, hrest⟩ := hf
      simp [Holed.values, ih hrest]

theorem Fits.append {h h' : Holed} {sites sites' : List Site} (hf : h.Fits sites)
    (hf' : h'.Fits sites') : (h.append h').Fits (sites ++ sites') := by
  induction h generalizing sites with
  | plain text =>
    cases sites with
    | cons => exact absurd hf (by simp [Fits])
    | nil =>
      cases h' with
      | plain more =>
        cases sites' with
        | nil => trivial
        | cons => exact absurd hf' (by simp [Fits])
      | hole more v rest =>
        cases sites' with
        | nil => exact absurd hf' (by simp [Fits])
        | cons site sites' =>
          obtain ⟨hv, ⟨front, rfl⟩, hrest⟩ := hf'
          exact ⟨hv, ⟨text ++ front, by rw [String.append_assoc]⟩, hrest⟩
  | hole text v rest ih =>
    cases sites with
    | nil => exact absurd hf (by simp [Fits])
    | cons site sites =>
      obtain ⟨hv, hlead, hrest⟩ := hf
      exact ⟨hv, hlead, ih hrest⟩

end Holed

/-- The text of a token with a hole for each of its operands. -/
def Token.holed (d : Dialect) : Token → Holed
  | operand v => .hole "" v (.plain "")
  | page p =>
    if d.offsetFetch then
      .hole " OFFSET " (.ofCount p.offset)
        (.hole " ROWS FETCH NEXT " (.ofCount p.limit) (.plain " ROWS ONLY"))
    else .hole " LIMIT " (.ofCount p.limit) (.hole " OFFSET " (.ofCount p.offset) (.plain ""))
  | t => .plain (t.render d 0)

namespace Fragment

/-- The text of a fragment with a hole for each of its operands. -/
def holed (d : Dialect) : Fragment → Holed
  | [] => .plain ""
  | t :: ts => (t.holed d).append (holed d ts)

theorem values_token_holed (d : Dialect) (t : Token) : (t.holed d).values = t.operands d := by
  cases t with
  | page p => by_cases h : d.offsetFetch <;> simp [Token.holed, Token.operands, Holed.values, h]
  | _ => rfl

theorem fill_token_holed (d : Dialect) (bound : Nat) (t : Token) :
    (t.holed d).fill d bound = t.render d bound := by
  cases t with
  | page p =>
    by_cases h : d.offsetFetch <;> simp [Token.holed, Token.render, Holed.fill, h, String.append_assoc]
  | operand v => simp [Token.holed, Token.render, Holed.fill]
  | _ => rfl

/-- The holes of a fragment hold its operands. -/
theorem values_holed (d : Dialect) (f : Fragment) : (f.holed d).values = f.operands d := by
  induction f with
  | nil => rfl
  | cons t ts ih =>
    rw [holed, Holed.values_append, values_token_holed, ih]
    rfl

/-- The text of a fragment is its text with holes, filled with numbered placeholders. -/
theorem fill_holed (d : Dialect) (bound : Nat) (f : Fragment) :
    (f.holed d).fill d bound = f.render d bound := by
  induction f generalizing bound with
  | nil => rfl
  | cons t ts ih =>
    rw [holed, Holed.fill_append, fill_token_holed, values_token_holed, ih]
    rfl

theorem holed_append (d : Dialect) (f g : Fragment) :
    holed d (f ++ g) = (holed d f).append (holed d g) := by
  induction f with
  | nil => simp [holed]
  | cons t ts ih =>
    rw [List.cons_append, holed, ih, holed, Holed.append_assoc]

/-- A fragment that binds nothing is a text without holes. -/
theorem holed_of_operands_nil {d : Dialect} {f : Fragment} (hf : f.operands d = []) :
    f.holed d = .plain (f.render d 0) := by
  rw [← values_holed] at hf
  rw [← fill_holed]
  cases h : f.holed d with
  | plain text => rfl
  | hole text v rest => simp [h, Holed.values] at hf

/-- The holes of the fragment's text are those of the sites. -/
def Lays (d : Dialect) (f : Fragment) (sites : List Site) : Prop :=
  (f.holed d).Fits sites

/-! ### Layouts -/

section Lays

variable {d : Dialect} {f g : Fragment} {sites sites' : List Site}

theorem Lays.append (hf : f.Lays d sites) (hg : g.Lays d sites') :
    Lays d (f ++ g) (sites ++ sites') := by
  unfold Lays
  rw [holed_append]
  exact Holed.Fits.append hf hg

theorem lays_of_operands_nil (hf : f.operands d = []) : f.Lays d [] := by
  unfold Lays
  rw [holed_of_operands_nil hf]
  trivial

theorem lays_nil : Lays d [] [] :=
  lays_of_operands_nil rfl

theorem lays_ite {p : Prop} [Decidable p] (hf : f.Lays d sites) (hg : g.Lays d sites) :
    Lays d (if p then f else g) sites := by
  split
  · exact hf
  · exact hg

theorem lays_text (s : String) : Lays d [.text s] [] :=
  lays_of_operands_nil rfl

theorem Lays.behind_text (s : String) (hf : f.Lays d sites) : Lays d (.text s :: f) sites :=
  (lays_text s).append hf

theorem Lays.before_text (s : String) (hf : f.Lays d sites) : Lays d (f ++ [.text s]) sites := by
  simpa using hf.append (lays_text s)

/-- The text in front of an operand leads to it. -/
theorem lays_operand (hf : f.operands d = []) (v : Value) :
    Lays d (f ++ [.operand v]) [⟨f.render d 0, v⟩] := by
  unfold Lays
  rw [holed_append, holed_of_operands_nil hf]
  exact ⟨rfl, ⟨"", by simp⟩, trivial⟩

theorem Lays.values (hf : f.Lays d sites) : f.operands d = sites.map Site.value := by
  rw [← values_holed]
  exact Holed.Fits.values hf

theorem Lays.nil_of_isVoid (hf : f.Lays d sites) (hv : f.isVoid) : sites = [] := by
  simpa [operands_of_isVoid hv] using hf.values

theorem Lays.clause (keyword : String) (hf : f.Lays d sites) :
    Lays d (Fragment.clause keyword f) sites := by
  unfold Fragment.clause
  split
  · rw [hf.nil_of_isVoid ‹_›]
    exact lays_nil
  · exact hf.behind_text keyword

theorem Lays.separated (separator : String) {fs : List Fragment} {layouts : List (List Site)}
    (h : List.Forall₂ (Lays d) fs layouts) :
    Lays d (Fragment.separated separator fs) layouts.flatten := by
  induction h with
  | nil => exact lays_nil
  | @cons f sites fs layouts hf hfs ih =>
    cases hfs with
    | nil => simpa [Fragment.separated] using hf
    | cons hg hgs =>
      simp only [Fragment.separated, List.intercalate_cons_cons, List.append_assoc,
        List.flatten_cons] at ih ⊢
      exact hf.append ((lays_text separator).append ih)

/-- What every element lays out, the list of them lays out with a text between them. -/
theorem lays_separated_map {α : Type} (separator : String) {xs : List α} {g : α → Fragment}
    {layout : α → List Site} (h : ∀ x ∈ xs, Lays d (g x) (layout x)) :
    Lays d (Fragment.separated separator (xs.map g)) (xs.flatMap layout) := by
  rw [List.flatMap_def]
  apply Lays.separated
  rw [List.forall₂_map_left_iff, List.forall₂_map_right_iff, List.forall₂_same]
  exact h

theorem lays_separated_nil {α : Type} (separator : String) {xs : List α} {g : α → Fragment}
    (h : ∀ x ∈ xs, Lays d (g x) []) : Lays d (Fragment.separated separator (xs.map g)) [] := by
  have hnil : xs.flatMap (fun _ => ([] : List Site)) = [] := by simp
  exact hnil ▸ lays_separated_map separator h

theorem lays_flatMap {α : Type} {xs : List α} {g : α → Fragment} {layout : α → List Site}
    (h : ∀ x ∈ xs, Lays d (g x) (layout x)) : Lays d (xs.flatMap g) (xs.flatMap layout) := by
  induction xs with
  | nil => exact lays_nil
  | cons x xs ih =>
    obtain ⟨hx, hxs⟩ := List.forall_mem_cons.mp h
    exact hx.append (ih hxs)

theorem Lays.filter {fs : List Fragment} {layouts : List (List Site)}
    (h : List.Forall₂ (Lays d) fs layouts) :
    ∃ kept, List.Forall₂ (Lays d) (fs.filter fun f => !f.isVoid) kept ∧
      kept.flatten = layouts.flatten := by
  induction h with
  | nil => exact ⟨[], .nil, rfl⟩
  | @cons f sites fs layouts hf _ ih =>
    obtain ⟨kept, hkept, hflat⟩ := ih
    by_cases hv : f.isVoid
    · refine ⟨kept, by simpa [hv] using hkept, ?_⟩
      simp [hflat, hf.nil_of_isVoid hv]
    · refine ⟨sites :: kept, by simpa [hv] using hkept.cons hf, ?_⟩
      simp [hflat]

/-- A group lays out the sites of its parts in their order, however many parts write nothing. -/
theorem Lays.grouped (junction : Junction) {fs : List Fragment} {layouts : List (List Site)}
    (h : List.Forall₂ (Lays d) fs layouts) :
    Lays d (Fragment.grouped junction fs) layouts.flatten := by
  obtain ⟨kept, hkept, hflat⟩ := Lays.filter h
  rw [← hflat]
  unfold Fragment.grouped
  split
  · rename_i hnil
    rw [hnil] at hkept
    cases hkept
    exact lays_nil
  · rename_i part hone
    rw [hone] at hkept
    cases hkept with
    | cons hpart hnil =>
      cases hnil
      simpa using hpart
  · exact ((Lays.separated _ hkept).behind_text "(").before_text ")"

end Lays

end Fragment

end QueryKit
