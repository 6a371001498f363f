import Mathlib.Data.UInt
import QueryKit.Proofs.Interpolation.Holes
import QueryKit.Sheet

/-! Pages as slices of a result. The two numbers of a page are bound in the order of their
placeholders, and they are the numbers of a literal window. They are cut off at the greatest number
that can be bound, but no result is so long that this makes a difference, and the pages of one size
lie end to end. -/

namespace QueryKit

/-- The greatest number of rows that can be bound. -/
def greatestCount : Nat :=
  2 ^ 63 - 1

namespace Page

def span (p : Page) : Nat :=
  max p.size.toNat 1

/-- The number of rows in front of the page. -/
def start (p : Page) : Nat :=
  (max p.number.toNat 1 - 1) * p.span

/-- The number of rows on the page as it is bound. -/
def rows (p : Page) : Nat :=
  min p.span greatestCount

/-- The number of rows in front of the page as it is bound. -/
def skipped (p : Page) : Nat :=
  min p.start greatestCount

def slice {α : Type} (p : Page) (xs : List α) : List α :=
  (xs.drop p.skipped).take p.rows

/-- It does not matter that the number and the size were raised to one before. -/
theorem span_of (number size : UInt64) :
    (Page.of number size).span = (Page.mk number size).span := by
  show max (max size 1).toNat 1 = max size.toNat 1
  rw [UInt64.toNat_max, show (1 : UInt64).toNat = 1 from rfl]
  omega

theorem start_of (number size : UInt64) :
    (Page.of number size).start = (Page.mk number size).start := by
  rw [start, start, span_of]
  show (max (max number 1).toNat 1 - 1) * _ = (max number.toNat 1 - 1) * _
  rw [UInt64.toNat_max, show (1 : UInt64).toNat = 1 from rfl, max_assoc, max_self]

variable (p : Page)

theorem toNat_limit : p.limit.toNat = p.span :=
  UInt64.toNat_max p.size 1

theorem toNat_offset : p.offset.toNat = min p.start (UInt64.size - 1) := by
  have hbound : min p.start (UInt64.size - 1) < 2 ^ 64 := by
    have : UInt64.size = 2 ^ 64 := rfl
    omega
  rw [offset, toNat_limit, UInt64.toNat_max, UInt64.toNat_ofNat']
  exact Nat.mod_eq_of_lt hbound

end Page

/-! ### Bound numbers -/

theorem toNat_ofNat_count (n : Nat) :
    (UInt64.ofNat (min n greatestCount)).toNat = min n greatestCount := by
  have hlt : min n greatestCount < 2 ^ 64 := by
    unfold greatestCount
    omega
  rw [UInt64.toNat_ofNat', Nat.mod_eq_of_lt hlt]

theorem Value.exists_ofCount (n : UInt64) :
    ∃ m : Int64, Value.ofCount n = .int m ∧ m.toInt = (min n.toNat greatestCount : Nat) := by
  refine ⟨_, rfl, Int64.toInt_ofInt_of_le ?_ ?_⟩
  · omega
  · omega

theorem Value.inline_int {m : Int64} {n : Nat} (h : m.toInt = n) :
    (Value.int m).inline = toString n := by
  rw [Value.inline, Value.inlineChars, h, String.ofList_toList]
  rfl

theorem Page.exists_limit (p : Page) :
    ∃ m : Int64, Value.ofCount p.limit = .int m ∧ m.toInt = p.rows := by
  have h := Value.exists_ofCount p.limit
  rwa [toNat_limit] at h

theorem Page.exists_offset (p : Page) :
    ∃ n : Int64, Value.ofCount p.offset = .int n ∧ n.toInt = p.skipped := by
  -- The product has been cut off before, at the greatest `UInt64`, which makes no difference here.
  have hcut : min (min p.start (UInt64.size - 1)) greatestCount = p.skipped := by
    rw [min_assoc]
    rfl
  have h := Value.exists_ofCount p.offset
  rwa [toNat_offset, hcut] at h

/-- The window of the dialect is its clause for a page, with the numbers in place of placeholders. -/
def Dialect.WindowsPages (d : Dialect) : Prop :=
  ∀ l o : UInt64, d.window (some l) (some o) =
    if d.offsetFetch then
      " OFFSET " ++ toString o ++ " ROWS FETCH NEXT " ++ toString l ++ " ROWS ONLY"
    else " LIMIT " ++ toString l ++ " OFFSET " ++ toString o

theorem Dialect.windowsPages_of_mem_builtins {d : Dialect} (hd : d ∈ builtins) :
    d.WindowsPages := by
  intro l o
  have hstandard : " LIMIT " ++ toString l ++ (" OFFSET " ++ toString o) =
      " LIMIT " ++ toString l ++ " OFFSET " ++ toString o :=
    (String.append_assoc ..).symm
  simp only [builtins, List.mem_cons, List.not_mem_nil, or_false] at hd
  rcases hd with rfl | rfl | rfl | rfl | rfl
  · exact hstandard
  · rfl
  · exact hstandard
  · rfl
  · rfl

namespace Page

/-- The clause for a page is a text with holes for two numbers. With the numbers themselves in its
holes it is the window of the dialect. -/
theorem exists_holed {d : Dialect} (hd : d.WindowsPages) (p : Page) :
    ∃ (h : Holed) (l o : UInt64) (m n : Int64),
      (l.toNat = p.rows ∧ m.toInt = p.rows) ∧ (o.toNat = p.skipped ∧ n.toInt = p.skipped) ∧
      (∀ bound, Fragment.render d bound [.page p] = h.fill d bound) ∧
      Fragment.operands d [.page p] = h.values ∧
      h.values = (if d.offsetFetch then [.int n, .int m] else [.int m, .int n]) ∧
      h.inlined = d.window (some l) (some o) := by
  obtain ⟨m, hm, hrows⟩ := p.exists_limit
  obtain ⟨n, hn, hskipped⟩ := p.exists_offset
  have hl : (UInt64.ofNat p.rows).toNat = p.rows := toNat_ofNat_count p.span
  have ho : (UInt64.ofNat p.skipped).toNat = p.skipped := toNat_ofNat_count p.start
  have htext : ∀ k : UInt64, toString k = toString k.toNat := fun _ => rfl
  refine ⟨(Token.page p).holed d, .ofNat p.rows, .ofNat p.skipped, m, n, ⟨hl, hrows⟩,
    ⟨ho, hskipped⟩, fun bound => ?_, ?_, ?_, ?_⟩
  · rw [Fragment.fill_token_holed, Fragment.render, Fragment.render, String.append_empty]
  · rw [Fragment.values_token_holed, Fragment.operands, List.flatMap_singleton]
  · rw [Fragment.values_token_holed, Token.operands, hm, hn]
  · rw [hd, htext, htext, hl, ho, ← Value.inline_int hrows, ← Value.inline_int hskipped]
    by_cases hfetch : d.offsetFetch
    · simp [Token.holed, Holed.inlined, hfetch, hm, hn, String.append_assoc]
    · simp [Token.holed, Holed.inlined, hfetch, hm, hn, String.append_assoc]

/-! ### Slices -/

variable {α : Type}

/-- Cutting the numbers off makes no difference for a result that is not too long. -/
theorem slice_eq {xs : List α} (hxs : xs.length ≤ greatestCount) (p : Page) :
    p.slice xs = (xs.drop p.start).take p.span := by
  have hdrop : xs.drop p.skipped = xs.drop p.start := by
    rcases le_total p.start greatestCount with hle | hge
    · -- Nothing is cut off.
      rw [skipped, min_eq_left hle]
    · -- Both pages are behind the last row.
      rw [skipped, min_eq_right hge, List.drop_eq_nil_of_le hxs,
        List.drop_eq_nil_of_le (hxs.trans hge)]
  rw [slice, hdrop, List.take_eq_take_iff, rows, List.length_drop]
  omega

theorem flatMap_slice {xs : List α} (hxs : xs.length ≤ greatestCount) {size : UInt64}
    (hsize : 1 ≤ size.toNat) {k : Nat} (hk : k < 2 ^ 64) :
    ((List.range k).flatMap fun i => (Page.mk (.ofNat (i + 1)) size).slice xs) =
      xs.take (k * size.toNat) := by
  induction k with
  | zero => simp
  | succ k ih =>
    have hnumber : (UInt64.ofNat (k + 1)).toNat = k + 1 := UInt64.toNat_ofNat_of_lt' hk
    have hspan : (Page.mk (.ofNat (k + 1)) size).span = size.toNat := max_eq_left hsize
    have hstart : (Page.mk (.ofNat (k + 1)) size).start = k * size.toNat := by
      rw [start, hspan, hnumber]
      simp
    rw [List.range_succ, List.flatMap_append, ih (by omega), List.flatMap_singleton,
      slice_eq hxs, hspan, hstart, Nat.succ_mul, List.take_add]

end Page

/-- A page binds its number of rows and the number of rows in front of it, each cut off at the
greatest number that can be bound, in the order of their placeholders, and the text with these
numbers in place of the placeholders is a literal window. Of a result the page shows what it would
show without the cut, and the first pages of one size show the first rows, each of them once. -/
theorem pages_lie_end_to_end :
    (∀ number size : UInt64, (Page.of number size).rows = (Page.mk number size).rows ∧
      (Page.of number size).skipped = (Page.mk number size).skipped) ∧
    (∀ (s : Sheet) (p : Page), s.dialect ∈ Dialect.builtins →
      ∃ (h : Holed) (l o : UInt64) (m n : Int64),
        (l.toNat = p.rows ∧ m.toInt = p.rows) ∧ (o.toNat = p.skipped ∧ n.toInt = p.skipped) ∧
        (s.write [.page p]).text = s.text ++ h.fill s.dialect s.values.length ∧
        (s.write [.page p]).values = s.values ++ h.values ∧
        h.values = (if s.dialect.offsetFetch then [.int n, .int m] else [.int m, .int n]) ∧
        h.inlined = s.dialect.window (some l) (some o)) ∧
    ∀ (α : Type) (xs : List α), xs.length ≤ greatestCount →
      (∀ p : Page, p.slice xs = (xs.drop p.start).take p.span) ∧
      ∀ (size : UInt64) (k : Nat), 1 ≤ size.toNat → k < 2 ^ 64 →
        ((List.range k).flatMap fun i => (Page.mk (.ofNat (i + 1)) size).slice xs) =
          xs.take (k * size.toNat) := by
  refine ⟨fun number size => ⟨?_, ?_⟩, fun s p hd => ?_, fun α xs hxs => ⟨Page.slice_eq hxs, ?_⟩⟩
  · rw [Page.rows, Page.span_of, Page.rows]
  · rw [Page.skipped, Page.start_of, Page.skipped]
  · obtain ⟨h, l, o, m, n, hrows, hskipped, htext, hvalues, horder, hinlined⟩ :=
      Page.exists_holed (Dialect.windowsPages_of_mem_builtins hd) p
    refine ⟨h, l, o, m, n, hrows, hskipped, ?_, ?_, horder, hinlined⟩
    · rw [Sheet.write, htext]
    · rw [Sheet.write, hvalues]
  · exact fun size k hsize hk => Page.flatMap_slice hxs hsize hk

/-- A page so far behind that its start is cut off, and the first two pages of five rows. -/
theorem pages_lie_end_to_end_cut :
    let s : Sheet := { values := [.int 7], text := "SELECT a FROM t", dialect := .sqlserver }
    let p : Page := ⟨18446744073709551615, 2⟩
    let xs := [1, 2, 3, 4, 5]
    s.dialect ∈ Dialect.builtins ∧ xs.length ≤ greatestCount ∧
      (∃ h : Holed, (s.write [.page p]).text = s.text ++ h.fill .sqlserver 1 ∧
        h.inlined = " OFFSET 9223372036854775807 ROWS FETCH NEXT 2 ROWS ONLY") ∧
      p.slice xs = [] ∧
      ((List.range 2).flatMap fun i => (Page.mk (.ofNat (i + 1)) 2).slice xs) = [1, 2, 3, 4] := by
  intro s p xs
  have hd : s.dialect ∈ Dialect.builtins := by simp [s, Dialect.builtins]
  have hxs : xs.length ≤ greatestCount := by decide
  obtain ⟨-, hwrite, hslice⟩ := pages_lie_end_to_end
  obtain ⟨h, l, o, m, n, ⟨hl, -⟩, ⟨ho, -⟩, htext, -, -, hinlined⟩ := hwrite s p hd
  obtain rfl : l = 2 := UInt64.toNat_inj.mp hl
  have hcut : (Page.mk 18446744073709551615 2).skipped = 9223372036854775807 := by decide
  obtain rfl : o = 9223372036854775807 := UInt64.toNat_inj.mp (ho.trans hcut)
  obtain ⟨hone, hall⟩ := hslice Nat xs hxs
  refine ⟨hd, hxs, ⟨h, htext, hinlined.trans (by decide +kernel)⟩, ?_,
    hall 2 2 (by decide) (by decide)⟩
  rw [hone, List.drop_eq_nil_of_le (by decide), List.take_nil]

end QueryKit
