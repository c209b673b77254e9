/-!
# Big-endian bytes

Fixed-width fields, most significant byte first. Main statement: `bigEndian_length`.
-/

namespace FilterQuery.Binding

/-- The low `width` bytes of a natural number, most significant first. -/
def bigEndian : Nat → Nat → List UInt8
  | 0, _ => []
  | width + 1, n => bigEndian width (n / 256) ++ [UInt8.ofNat n]

@[simp] theorem bigEndian_length (width n : Nat) : (bigEndian width n).length = width := by
  induction width generalizing n with
  | zero => rfl
  | succ width ih => simp [bigEndian, ih]

/-- An integer in two's complement, `width` bytes wide. -/
def twosComplement (width : Nat) (i : Int) : List UInt8 :=
  bigEndian width (i % (Nat.pow 256 width : Nat)).toNat

@[simp] theorem twosComplement_length (width : Nat) (i : Int) :
    (twosComplement width i).length = width := by
  simp [twosComplement]

/-- The bytes of a text in UTF-8. -/
def utf8 (s : String) : List UInt8 := s.toUTF8.toList

end FilterQuery.Binding
