import QueryKit.Proofs.Row

/-! Values that go into a row and come out of it. What is bound from a type is read back at the same
type, an integer is read at the widths that hold it and at no others, and a missing entry is read at
the types that can represent absence. -/

namespace QueryKit

/-! ### Results of a column -/

/-- A column of a row reads as a result: by its number, and by every name that leads to it. -/
structure Row.Reads {h : Header} (row : Row h) (i : h.Place) (t : ColumnType)
    (result : Except DecodeError t.Carrier) : Prop where
  byNumber : row.index t i.val = result.mapError (.decode (h.names.get i))
  byName (name : String) (hi : h.position? name = some i) :
    row.column t name = result.mapError (.decode name)

theorem Row.reads_iff {h : Header} {row : Row h} {i : h.Place} {t : ColumnType}
    {result : Except DecodeError t.Carrier} :
    row.Reads i t result ↔ t.read (row.valueAt i) = result := by
  have hnumber : row.index t i.val =
      (t.read (row.valueAt i)).mapError (.decode (h.names.get i)) := by simp [index, readAt]
  constructor
  · intro hreads
    have hsame := hnumber.symm.trans hreads.byNumber
    generalize t.read (row.valueAt i) = found at hsame
    cases found <;> cases result <;> simp_all [Except.mapError]
  · rintro rfl
    exact ⟨hnumber, fun name hi => by simp [column, hi, readAt]⟩

/-! ### Numbers -/

namespace IntType

/-- Every number that can be bound is one of 64 bits with a sign. -/
theorem fits_i64 {w : IntType} (hw : w ≠ .u64) (x : w.Number) : i64.Fits x.val := by
  obtain ⟨n, hn⟩ := x
  cases w <;> simp [Fits, least, greatest] at hw hn ⊢ <;> omega

theorem toInt_ofInt {w : IntType} (hw : w ≠ .u64) (x : w.Number) :
    (Int64.ofInt x.val).toInt = x.val := by
  have hx := fits_i64 hw x
  exact Int64.toInt_ofInt_of_le hx.1 (Int.lt_add_one_of_le hx.2)

end IntType

namespace ColumnType

theorem toValue?_int {w : IntType} (hw : w ≠ .u64) (x : w.Number) :
    (int w).toValue? x = some (.int (.ofInt x.val)) :=
  if_pos (IntType.fits_i64 hw x)

theorem ofValue_int {w : IntType} {n : Int64} {m : Int} (hm : n.toInt = m) (hfits : w.Fits m) :
    (int w).ofValue (.int n) = .ok ⟨m, hfits⟩ := by
  subst hm
  exact dif_pos hfits

/-! ### Arguments -/

/-- The types of plain arguments, other than floats. -/
def isPlain : ColumnType → Bool
  | int w => w ≠ .u64
  | bool | text | bytes | uuid | date | time | timestamp | moment | json => true
  | value | single | double | option _ => false

/-- The types of arguments that columns are read at, other than floats: plain ones, and optional ones
that are plain if present. -/
inductive IsArgument : ColumnType → Prop
  | plain {t : ColumnType} (ht : t.isPlain) : IsArgument t
  | optional {t : ColumnType} (ht : t.isPlain) : IsArgument (option t)

/-- An argument of a plain type is bound as a value that is not missing and is read as it. -/
theorem exists_toValue? {t : ColumnType} (ht : t.isPlain) (x : t.Carrier) :
    ∃ v, t.toValue? x = some v ∧ v.isNull = false ∧ t.ofValue v = .ok x := by
  cases t with
  | int w =>
    have hw : w ≠ .u64 := by simpa [isPlain] using ht
    refine ⟨_, toValue?_int hw x, rfl, ?_⟩
    exact ofValue_int (IntType.toInt_ofInt hw x) x.property
  | value | single | double | option => contradiction
  | _ => exact ⟨_, rfl, rfl, rfl⟩

theorem read_of_isNull {t : ColumnType} {v : Value} (hv : v.isNull = false) :
    t.read v = t.ofValue v := by
  simp [read, hv]

/-- An argument is read back at its type. -/
theorem IsArgument.exists_read {t : ColumnType} (ht : t.IsArgument) (x : t.Carrier) :
    ∃ v, t.toValue? x = some v ∧ t.read v = .ok x := by
  cases ht with
  | plain ht =>
    obtain ⟨v, hv, hnull, hread⟩ := exists_toValue? ht x
    exact ⟨v, hv, (read_of_isNull hnull).trans hread⟩
  | optional ht =>
    cases x with
    | none => exact ⟨.null, rfl, rfl⟩
    | some x =>
      obtain ⟨v, hv, hnull, hread⟩ := exists_toValue? ht x
      refine ⟨v, hv, ?_⟩
      rw [read_of_isNull hnull, ofValue, hread]
      rfl

/-- A missing entry is read at the types that can represent absence. -/
theorem exists_ofNull_iff (t : ColumnType) :
    (∃ x, t.ofNull = .ok x) ↔ t = .value ∨ t = .json ∨ ∃ s, t = .option s := by
  cases t <;> simp [ofNull]

/-- An entry that is not missing is read at an optional type as at the type itself. -/
theorem read_option_iff {t : ColumnType} {v : Value} (hv : v.isNull = false)
    (result : Except DecodeError t.Carrier) :
    (option t).read v = result.map some ↔ t.read v = result := by
  rw [read_of_isNull hv, read_of_isNull hv, ofValue]
  cases t.ofValue v <;> cases result <;> simp [Except.map]

end ColumnType

/-- What an argument is bound as, other than a float, is read back as the argument at its type. An
integer of any width that can be bound is read as the same number at the widths that hold it, and
the others refuse it. A missing entry is read exactly at the types that can represent absence, and
any other entry at an optional type exactly as at the type itself, its errors included. -/
theorem arguments_are_read_back :
    (∀ t : ColumnType, t.IsArgument → ∀ x : t.Carrier, ∃ v, t.toValue? x = some v ∧
      ∀ (h : Header) (row : Row h) (i : h.Place), row.valueAt i = v → row.Reads i t (.ok x)) ∧
    (∀ a b : IntType, a ≠ .u64 → ∀ x : a.Number, ∃ n : Int64,
      ColumnType.toValue? (.int a) x = some (.int n) ∧ n.toInt = x.val ∧
      ∀ (h : Header) (row : Row h) (i : h.Place), row.valueAt i = .int n →
        (∀ hx : b.Fits x.val, row.Reads i (.int b) (.ok ⟨x.val, hx⟩)) ∧
        (¬b.Fits x.val → row.Reads i (.int b) (.error (.integerRange n b)))) ∧
    (∀ (h : Header) (row : Row h) (i : h.Place) (t : ColumnType), row.valueAt i = .null →
      ((∃ x, row.Reads i t (.ok x)) ↔ t = .value ∨ t = .json ∨ ∃ s, t = .option s)) ∧
    ∀ (h : Header) (row : Row h) (i : h.Place) (t : ColumnType), (row.valueAt i).isNull = false →
      (∀ result, row.Reads i (.option t) (result.map some) ↔ row.Reads i t result) ∧
      ((∃ e, row.Reads i (.option t) (.error e)) ↔ ∃ e, row.Reads i t (.error e)) := by
  simp only [Row.reads_iff]
  refine ⟨fun t ht x => ?_, fun a b ha x => ?_, fun h row i t hnull => ?_,
    fun h row i t hvalue => ?_⟩
  · obtain ⟨v, hv, hread⟩ := ht.exists_read x
    exact ⟨v, hv, fun h row i hi => hi ▸ hread⟩
  · have hx : (Int64.ofInt x.val).toInt = x.val := IntType.toInt_ofInt ha x
    refine ⟨_, ColumnType.toValue?_int ha x, hx, fun h row i hi => ?_⟩
    rw [hi]
    exact ⟨fun hfits => ColumnType.ofValue_int hx hfits, fun hfits => dif_neg (hx.symm ▸ hfits)⟩
  · rw [hnull]
    exact ColumnType.exists_ofNull_iff t
  · exact ⟨ColumnType.read_option_iff hvalue,
      exists_congr fun e => ColumnType.read_option_iff hvalue (.error e)⟩

/-- A present document that says null, a number below the least one of a width, and an entry that is
missing. -/
theorem arguments_are_read_back_narrowed :
    let h : Header := { names := ["doc", "n", "gone"] }
    let row : Row h := ⟨[.json .null, .int (-1), .null], rfl⟩
    row.Reads ⟨0, by decide⟩ (.option .json) (.ok (some .null)) ∧
      row.Reads ⟨1, by decide⟩ (.int .i8) (.ok ⟨-1, by decide⟩) ∧
      row.Reads ⟨1, by decide⟩ (.int .u64) (.error (.integerRange (-1) .u64)) ∧
      (∃ e, row.Reads ⟨1, by decide⟩ (.option (.int .u64)) (.error e)) ∧
      (∃ x, row.Reads ⟨2, by decide⟩ .json (.ok x)) ∧
      ¬∃ x, row.Reads ⟨2, by decide⟩ .text (.ok x) := by
  intro h row
  obtain ⟨hback, hintegers, hmissing, hoptional⟩ := arguments_are_read_back
  obtain ⟨v, hv, hdoc⟩ := hback (.option .json) (.optional rfl) (some .null)
  obtain rfl : Value.json .null = v := Option.some.inj hv
  obtain ⟨n, hn, -, hread⟩ := hintegers .i16 .u64 (by decide) ⟨-1, by decide⟩
  obtain rfl : (-1 : Int64) = n := Value.int.inj (Option.some.inj hn)
  obtain ⟨n, hn, -, hread'⟩ := hintegers .i16 .i8 (by decide) ⟨-1, by decide⟩
  obtain rfl : (-1 : Int64) = n := Value.int.inj (Option.some.inj hn)
  have hrange := (hread h row ⟨1, by decide⟩ rfl).2 (by decide)
  refine ⟨hdoc h row _ rfl, (hread' h row ⟨1, by decide⟩ rfl).1 (by decide), hrange,
    (hoptional h row ⟨1, by decide⟩ _ rfl).2.mpr ⟨_, hrange⟩,
    (hmissing h row ⟨2, by decide⟩ .json rfl).mpr (.inr (.inl rfl)), fun htext => ?_⟩
  rcases (hmissing h row ⟨2, by decide⟩ .text rfl).mp htext with h | h | ⟨s, h⟩ <;> cases h

end QueryKit
