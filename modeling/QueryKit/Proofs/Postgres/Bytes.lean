import QueryKit.Postgres.Decoding
import QueryKit.Postgres.Encoding

/-! Numbers and texts as bytes. Bytes spell a number back if it fits their count, and a text is
spelled by its bytes alone. -/

namespace QueryKit.Postgres

/-! ### Numbers -/

theorem length_bytesOfInt (count : Nat) (n : Int) : (bytesOfInt count n).length = count :=
  length_bytesOfNat count _

/-- The bytes of a number spell its remainder. -/
theorem natOfBytes_bytesOfInt (count : Nat) (n : Int) :
    (natOfBytes (bytesOfInt count n) : Int) = n % (Nat.pow 256 count : Int) := by
  have hpos : (0 : Int) < (Nat.pow 256 count : Int) := by
    exact_mod_cast Nat.pow_pos (n := count) (show 0 < 256 by decide)
  have hlow := Int.emod_nonneg n (Int.ne_of_gt hpos)
  have hhigh := Int.emod_lt_of_pos n hpos
  rw [bytesOfInt, natOfBytes_bytesOfNat, Nat.mod_eq_of_lt (by omega)]
  omega

section Spelled

variable {count m : Nat} {n : Int} (hm : Nat.pow 256 count = m)

include hm

theorem intOfBytes_bytesOfInt (hlow : -(m : Int) ≤ n * 2) (hhigh : n * 2 < m) :
    intOfBytes (bytesOfInt count n) = n := by
  rw [intOfBytes, natOfBytes_bytesOfInt, length_bytesOfInt, Int.emod_bmod, hm]
  exact Int.bmod_eq_of_le_mul_two hlow hhigh

theorem signed_bytesOfInt (hlow : -(m : Int) ≤ n * 2) (hhigh : n * 2 < m) :
    signed count (bytesOfInt count n) = some n := by
  rw [signed, if_pos (length_bytesOfInt count n), intOfBytes_bytesOfInt hm hlow hhigh]

theorem unsigned_bytesOfInt (hlow : 0 ≤ n) (hhigh : n < m) :
    unsigned count (bytesOfInt count n) = some n.toNat := by
  have hspelled := natOfBytes_bytesOfInt count n
  rw [hm, Int.emod_eq_of_lt hlow hhigh] at hspelled
  rw [unsigned, if_pos (length_bytesOfInt count n)]
  congr 1
  omega

end Spelled

theorem fitted_eq_some_iff {count : Nat} {least greatest n : Int} {bytes : Bytes} :
    fitted count least greatest n = some bytes ↔
      (least ≤ n ∧ n ≤ greatest) ∧ bytes = bytesOfInt count n := by
  unfold fitted
  by_cases hfits : least ≤ n ∧ n ≤ greatest
  · simp [hfits, eq_comm]
  · simp [hfits]

/-! ### Texts -/

/-- The text that bytes spell. -/
def textOfBytes? (bytes : Bytes) : Option String :=
  String.fromUTF8? ⟨bytes.toArray⟩

theorem textOfBytes?_eq_some_iff {bytes : Bytes} {s : String} :
    textOfBytes? bytes = some s ↔ bytes = s.toUTF8.data.toList := by
  unfold textOfBytes? String.fromUTF8?
  constructor
  · intro h
    split at h
    · cases h
      rfl
    · contradiction
  · rintro rfl
    have hvalid : (⟨s.toUTF8.data.toList.toArray⟩ : ByteArray).IsValidUTF8 := s.isValidUTF8
    rw [dif_pos hvalid]
    rfl

end QueryKit.Postgres
