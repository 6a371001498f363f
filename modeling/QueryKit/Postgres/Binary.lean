import QueryKit.Text.Hex

/-! Numbers as bytes of a fixed count, the most significant byte first; negative numbers are in
two's complement. -/

namespace QueryKit.Postgres

/-- The lowest bytes of a number. -/
def bytesOfNat : Nat → Nat → Bytes
  | 0, _ => []
  | count + 1, n => bytesOfNat count (n / 256) ++ [UInt8.ofNat n]

/-- The bytes of a whole number. -/
def bytesOfInt (count : Nat) (n : Int) : Bytes :=
  bytesOfNat count (n % (Nat.pow 256 count : Int)).toNat

/-- The number that bytes spell. -/
def natOfBytes (bytes : Bytes) : Nat :=
  bytes.foldl (fun n b => 256 * n + b.toNat) 0

/-- The whole number that bytes spell. -/
def intOfBytes (bytes : Bytes) : Int :=
  Int.bmod (natOfBytes bytes) (Nat.pow 256 bytes.length)

theorem length_bytesOfNat (count n : Nat) : (bytesOfNat count n).length = count := by
  induction count generalizing n with
  | zero => rfl
  | succ count ih => simp [bytesOfNat, ih]

theorem natOfBytes_append (bytes : Bytes) (b : UInt8) :
    natOfBytes (bytes ++ [b]) = 256 * natOfBytes bytes + b.toNat := by
  simp [natOfBytes]

/-- The lowest bytes of a number spell its remainder. -/
theorem natOfBytes_bytesOfNat (count n : Nat) :
    natOfBytes (bytesOfNat count n) = n % Nat.pow 256 count := by
  induction count generalizing n with
  | zero => simp [bytesOfNat, natOfBytes, Nat.mod_one]
  | succ count ih =>
    have low : (UInt8.ofNat n).toNat = n % 256 := by simp
    have step : Nat.pow 256 (count + 1) = 256 * Nat.pow 256 count := Nat.mul_comm _ _
    rw [bytesOfNat, natOfBytes_append, ih, low, step, Nat.mod_mul]
    omega

end QueryKit.Postgres
