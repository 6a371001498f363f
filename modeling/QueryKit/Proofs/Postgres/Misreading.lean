import QueryKit.Proofs.Postgres.Bytes

/-! What is read back of a value that was sent. At a type of its own kind a value is fitted to the
type and read back as it was. At any other type it is sent in its raw form, and if that is well
formed at the type, it is read back as something else. -/

namespace QueryKit

namespace Postgres

/-- What a plain value is. -/
inductive Kind
  | truth
  | number
  | text
  | bytes
deriving DecidableEq

/-- The kind of the values that are read at a plain type. -/
def DataType.kind? : DataType → Option Kind
  | .bool => some .truth
  | .int2 | .int4 | .int8 | .oid => some .number
  | .text | .varchar | .bpchar | .name => some .text
  | .bytea => some .bytes
  | .float4 | .float8 | .uuid | .date | .time | .timestamp | .timestamptz | .json | .jsonb
  | .other _ => none

end Postgres

open Postgres

/-- The kind of a plain value. -/
def Value.kind? : Value → Option Kind
  | .bool _ => some .truth
  | .int _ => some .number
  | .text _ => some .text
  | .bytes _ => some .bytes
  | .null | .float _ | .uuid _ | .date _ | .time _ | .timestamp _ | .moment _ | .json _ => none

/-- The bytes of a plain value that no type is asked for. -/
def Value.raw : Value → Bytes
  | .bool b => [if b then 1 else 0]
  | .int n => bytesOfInt 8 n.toInt
  | .text s => s.toUTF8.data.toList
  | .bytes b => b
  | .null | .float _ | .uuid _ | .date _ | .time _ | .timestamp _ | .moment _ | .json _ => []

namespace Postgres

/-- The bytes are well formed at a plain type. -/
def DataType.Admits : DataType → Bytes → Prop
  | .bool, bytes => bytes.length = 1
  | .int2, bytes => bytes.length = 2
  | .int4, bytes | .oid, bytes => bytes.length = 4
  | .int8, bytes => bytes.length = 8
  | .text, bytes | .varchar, bytes | .bpchar, bytes | .name, bytes =>
    (⟨bytes.toArray⟩ : ByteArray).IsValidUTF8
  | .bytea, _ => True
  | .float4, _ | .float8, _ | .uuid, _ | .date, _ | .time, _ | .timestamp, _ | .timestamptz, _
  | .json, _ | .jsonb, _ | .other _, _ => False

/-- The value is sent raw to a type of another kind, where its bytes are well formed. -/
def Misread (type : DataType) (v : Value) : Prop :=
  type.kind? ≠ v.kind? ∧ type.Admits v.raw

variable {type : DataType} {v w : Value} {bytes : Bytes}

/-! ### Sending and reading -/

theorem readBytes_bool_iff :
    readBytes .bool bytes = some w ↔ ∃ b, bytes = [b] ∧ w = .bool (b != 0) := by
  match bytes with
  | [] => simp [readBytes]
  | [b] => simp [readBytes, eq_comm]
  | _ :: _ :: _ => simp [readBytes]

theorem readBytes_oid_eq :
    readBytes .oid bytes = (unsigned 4 bytes).map fun n => .int (.ofInt n) := by
  rw [readBytes]
  cases unsigned 4 bytes <;> rfl

theorem kind_of_readBytes (ht : type.kind?.isSome) (hr : readBytes type bytes = some w) :
    w.kind? = type.kind? := by
  cases type <;> simp only [DataType.kind?, Option.isSome_none, Bool.false_eq_true] at ht
  case bool =>
    obtain ⟨b, -, rfl⟩ := readBytes_bool_iff.mp hr
    rfl
  case oid =>
    rw [readBytes_oid_eq] at hr
    obtain ⟨n, -, rfl⟩ := Option.map_eq_some_iff.mp hr
    rfl
  case int2 | int4 | int8 =>
    obtain ⟨n, -, rfl⟩ := Option.map_eq_some_iff.mp hr
    rfl
  case text | varchar | bpchar | name =>
    obtain ⟨s, -, rfl⟩ := Option.map_eq_some_iff.mp hr
    rfl
  case bytea =>
    cases hr
    rfl

/-- Bytes are read at a plain type exactly if they are well formed there. -/
theorem exists_readBytes_iff (ht : type.kind?.isSome) :
    (∃ w, readBytes type bytes = some w) ↔ type.Admits bytes := by
  cases type <;> simp only [DataType.kind?, Option.isSome_none, Bool.false_eq_true] at ht
  case bool =>
    simp only [readBytes_bool_iff, DataType.Admits, List.length_eq_one_iff]
    constructor
    · rintro ⟨_, b, hb, -⟩
      exact ⟨b, hb⟩
    · rintro ⟨b, hb⟩
      exact ⟨_, b, hb, rfl⟩
  case oid => simp [readBytes_oid_eq, unsigned, DataType.Admits]
  case int2 | int4 | int8 => simp [readBytes, signed, DataType.Admits]
  case text | varchar | bpchar | name =>
    rw [← Option.isSome_iff_exists, readBytes, Option.isSome_map, String.fromUTF8?, DataType.Admits]
    split <;> simp_all
  case bytea => simp [readBytes, DataType.Admits]

theorem encodePresent_of_kind_ne (ht : type.kind?.isSome) (hv : v.kind?.isSome)
    (hne : type.kind? ≠ v.kind?) : encodePresent type v = some v.raw := by
  cases v <;> simp only [Value.kind?, Option.isSome_none, Bool.false_eq_true] at hv
  case bool => rfl
  case text => rfl
  case bytes => rfl
  case int n => cases type <;> first | rfl | contradiction

theorem readBytes_of_encodeInt {n : Int64} (ht : type.kind? = some .number)
    (he : encodeInt type n.toInt = some bytes) : readBytes type bytes = some (.int n) := by
  have hlow := n.le_toInt
  have hhigh := n.toInt_lt
  cases type <;> simp only [DataType.kind?, Option.some.injEq, reduceCtorEq] at ht
  case int2 =>
    obtain ⟨hfits, rfl⟩ := fitted_eq_some_iff.mp he
    rw [readBytes, signed_bytesOfInt (m := 65536) rfl (by omega) (by omega)]
    simp
  case int4 =>
    obtain ⟨hfits, rfl⟩ := fitted_eq_some_iff.mp he
    rw [readBytes, signed_bytesOfInt (m := 4294967296) rfl (by omega) (by omega)]
    simp
  case int8 =>
    obtain rfl := Option.some.inj he
    rw [readBytes, signed_bytesOfInt (m := 18446744073709551616) rfl (by omega) (by omega)]
    simp
  case oid =>
    obtain ⟨hfits, rfl⟩ := fitted_eq_some_iff.mp he
    rw [readBytes_oid_eq, unsigned_bytesOfInt (m := 4294967296) rfl hfits.1 (by omega),
      Option.map_some, Int.toNat_of_nonneg hfits.1, Int64.ofInt_toInt]

/-- A value that is fitted to a type of its kind is read back as it was. -/
theorem readBytes_of_encodePresent (ht : type.kind?.isSome) (hsame : type.kind? = v.kind?)
    (he : encodePresent type v = some bytes) : readBytes type bytes = some v := by
  rw [hsame] at ht
  cases v <;> simp only [Value.kind?, Option.isSome_none, Bool.false_eq_true] at hsame ht
  -- Integers are the one kind whose bytes depend on the type.
  case int n => exact readBytes_of_encodeInt hsame he
  case bool b =>
    obtain rfl := Option.some.inj he
    cases type <;> simp only [DataType.kind?, Option.some.injEq, reduceCtorEq] at hsame
    cases b <;> rfl
  case text s =>
    obtain rfl := Option.some.inj he
    have hread := textOfBytes?_eq_some_iff.mpr (Eq.refl s.toUTF8.data.toList)
    unfold textOfBytes? at hread
    cases type <;> simp only [DataType.kind?, Option.some.injEq, reduceCtorEq] at hsame
    all_goals rw [readBytes, hread, Option.map_some]
  case bytes b =>
    obtain rfl := Option.some.inj he
    cases type <;> simp only [DataType.kind?, Option.some.injEq, reduceCtorEq] at hsame
    rfl

theorem decode_ok_iff (ht : type.kind?.isSome) (index : Nat) :
    decode type index (some bytes) = .ok w ↔ readBytes type bytes = some w := by
  cases type <;> simp only [DataType.kind?, Option.isSome_none, Bool.false_eq_true] at ht
  all_goals
    simp only [decode]
    cases readBytes _ bytes <;> simp

theorem encode_eq_some_iff (hv : v.kind?.isSome) :
    encode type v = some (some bytes) ↔ encodePresent type v = some bytes := by
  have hpresent : v.isNull = false := by cases v <;> first | rfl | contradiction
  simp [encode, hpresent]

/-- A plain value that is sent at a plain type is read back as itself or not at all, unless the type is
of another kind and the raw bytes of the value are well formed there. -/
theorem sent_values_are_read_back_iff (type : DataType) (v : Value) (ht : type.kind?.isSome)
    (hv : v.kind?.isSome) :
    (∀ bytes, encode type v = some (some bytes) →
      ∀ index w, decode type index (some bytes) = .ok w → w = v) ↔ ¬Misread type v := by
  simp only [encode_eq_some_iff hv, decode_ok_iff ht]
  constructor
  · rintro hback ⟨hne, hadmits⟩
    obtain ⟨w, hw⟩ := (exists_readBytes_iff ht).mpr hadmits
    have hsame := hback _ (encodePresent_of_kind_ne ht hv hne) 0 w hw
    rw [hsame] at hw
    exact hne (kind_of_readBytes ht hw).symm
  · intro hsafe bytes he index w hw
    by_cases hsame : type.kind? = v.kind?
    · exact Option.some.inj (hw.symm.trans (readBytes_of_encodePresent ht hsame he))
    · obtain rfl := Option.some.inj (he.symm.trans (encodePresent_of_kind_ne ht hv hsame))
      exact absurd ⟨hsame, (exists_readBytes_iff ht).mp ⟨w, hw⟩⟩ hsafe

/-- A text of three bytes is no number of four, but a text of four bytes is. -/
theorem sent_values_are_read_back_iff_number :
    (∀ bytes, encode .int4 (.text "abc") = some (some bytes) →
      ∀ index w, decode .int4 index (some bytes) = .ok w → w = .text "abc") ∧
    ¬∀ bytes, encode .int4 (.text "abcd") = some (some bytes) →
      ∀ index w, decode .int4 index (some bytes) = .ok w → w = .text "abcd" := by
  constructor
  · refine (sent_values_are_read_back_iff .int4 (.text "abc") rfl rfl).mpr ?_
    rintro ⟨-, hadmits⟩
    exact absurd (show 3 = 4 from hadmits) (by decide)
  · intro hback
    exact (sent_values_are_read_back_iff .int4 (.text "abcd") rfl rfl).mp hback ⟨by decide, rfl⟩

/-- A text of one letter is sent as a truth value and read back as one. -/
theorem letters_are_read_as_truth :
    encode .bool (.text "a") = some (some [97]) ∧
      decode .bool 0 (some [97]) = .ok (.bool true) ∧ Value.bool true ≠ .text "a" :=
  ⟨rfl, rfl, nofun⟩

end Postgres

end QueryKit
