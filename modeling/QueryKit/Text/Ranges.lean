/-! Sets of characters given by ranges of code points. A strided range holds every second code
point, the way upper and lower case letters alternate in many alphabets. -/

namespace QueryKit.Text

/-- The character lies in one of the closed ranges of code points. -/
def inRanges (ranges : List (Nat × Nat)) (c : Char) : Bool :=
  ranges.any fun (first, last) => first ≤ c.toNat && c.toNat ≤ last

/-- The character is reached from the first code point of a range by whole strides. -/
def inStrides (ranges : List (Nat × Nat × Nat)) (c : Char) : Bool :=
  ranges.any fun (first, last, stride) =>
    first ≤ c.toNat && c.toNat ≤ last && (c.toNat - first) % stride == 0

end QueryKit.Text
