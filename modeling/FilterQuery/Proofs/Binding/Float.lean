import FilterQuery.Binding.Encode
import FilterQuery.Json.Number
import FilterQuery.Proofs.Binding.Bytes
import FilterQuery.Proofs.Number.Overflow

/-!
# Numbers as single-precision floats

A number is bound as a float of four bytes by rounding the 64-bit float of the number once more.
There is no check on the way: a number that is too large for the four bytes is bound as infinity.
`Binding.encode_float4_number` states for which numbers this happens.
-/

namespace FilterQuery

open Number (Binary Format)

namespace Json.Number

/-- The number as a rational. -/
def value : Json.Number → ℚ
  | .integer i _ => i
  | .double x => x.toBinary.value

theorem one_double : Format.double.one = 2 ^ 1074 := by decide +kernel

variable {i : Int} {fits : -0x8000000000000000 ≤ i ∧ i < 0x10000000000000000}

/-- The float nearest to an integer of 64 bits has an exponent of 65 at most. -/
theorem magnitude_toBinary_integer :
    (integer i fits).toBinary.magnitude ≤ (1086 + 2) * 2 ^ Format.double.fractionBits := by
  have habs : i.natAbs ≤ 2 ^ 64 := by omega
  have hunits : i.natAbs * Format.double.one <
      2 ^ (Format.double.fractionBits + 1) * (1 * 2 ^ 1086) := by
    calc i.natAbs * Format.double.one
      _ ≤ 2 ^ 64 * Format.double.one := Nat.mul_le_mul_right _ habs
      _ < 2 ^ (Format.double.fractionBits + 1) * (1 * 2 ^ 1086) := by decide +kernel
  exact Format.double.nearest_le Nat.one_pos hunits

theorem isFinite_toBinary (n : Json.Number) : n.toBinary.isFinite = true := by
  cases n with
  | integer i fits =>
      rw [Binary.isFinite_iff]
      exact magnitude_toBinary_integer.trans_lt (by decide +kernel)
  | double x => exact Binary.isFinite_iff.mpr x.finite

/-- Integers of 64 bits are far from overflow, before and after they become floats. -/
theorem abs_value_lt_overflow_integer :
    |(integer i fits).value| < Format.single.overflow ∧
      |(integer i fits).toBinary.value| < Format.single.overflow := by
  rw [Format.overflow_single]
  constructor
  · have habs : |(i : ℚ)| ≤ 2 ^ 64 := by
      rw [abs_le]
      constructor
      · exact_mod_cast (show -2 ^ 64 ≤ i by omega)
      · exact_mod_cast (show i ≤ 2 ^ 64 by omega)
    exact habs.trans_lt (by norm_num)
  · have hcode : (integer i fits).toBinary.magnitude <
        (1087 + 2) * 2 ^ Format.double.fractionBits :=
      magnitude_toBinary_integer.trans_lt (by decide +kernel)
    have hunits : Format.double.units (integer i fits).toBinary.magnitude < 2 ^ 66 * 2 ^ 1074 :=
      (Format.double.units_lt hcode).trans_eq (by decide +kernel)
    have hcast : (Format.double.units (integer i fits).toBinary.magnitude : ℚ) <
        2 ^ 66 * 2 ^ 1074 := by exact_mod_cast hunits
    rw [Binary.abs_value, one_double, Nat.cast_pow, Nat.cast_ofNat, div_lt_iff₀ (by positivity)]
    exact hcast.trans (mul_lt_mul_of_pos_right (by norm_num) (by positivity))

/-- The number overflows as a float of four bytes exactly if its own float does. -/
theorem abs_value_lt_overflow_iff (n : Json.Number) :
    |n.toBinary.value| < Format.single.overflow ↔ |n.value| < Format.single.overflow := by
  cases n with
  | integer i fits =>
      exact iff_of_true abs_value_lt_overflow_integer.2 abs_value_lt_overflow_integer.1
  | double x => rfl

theorem negative_toBinary {n : Json.Number} (h : n.value ≠ 0) :
    n.toBinary.negative = decide (n.value < 0) := by
  cases n with
  | integer i fits =>
      change decide (i < 0) = decide ((i : ℚ) < 0)
      rw [decide_eq_decide, Int.cast_lt_zero]
  | double x => exact Binary.negative_eq_decide h

end Json.Number

namespace Number.Binary

/-- The number whose bits a natural number spells. -/
def ofBits (F : Format) (n : Nat) : Binary F := ⟨F.signBit ≤ n, n % F.signBit⟩

theorem ofBits_bits {F : Format} {x : Binary F} (h : x.magnitude < F.signBit) :
    ofBits F x.bits = x := by
  obtain ⟨negative, magnitude⟩ := x
  cases negative with
  | false => simp [ofBits, bits, Nat.mod_eq_of_lt h, Nat.not_le.mpr h]
  | true => simp [ofBits, bits, Nat.mod_eq_of_lt h]

end Number.Binary

namespace Binding

/-- The number of single precision that four bytes spell. -/
def singleValue (bs : List UInt8) : Binary Format.single := Binary.ofBits Format.single (natValue bs)

theorem singleValue_bigEndian {x : Binary Format.single}
    (h : x.magnitude ≤ Format.single.infinity) : singleValue (bigEndian 4 x.bits) = x := by
  have hsign : x.magnitude < Format.single.signBit := h.trans_lt (by decide +kernel)
  have hbits : x.bits < 256 ^ 4 := by
    have hword : Format.single.signBit + Format.single.signBit = 256 ^ 4 := by decide +kernel
    rw [Binary.bits]
    split <;> omega
  rw [singleValue, natValue_bigEndian, Nat.mod_eq_of_lt hbits, Binary.ofBits_bits hsign]

/-- A number is never refused: it is bound as four bytes, which spell a finite float exactly if the
magnitude of the number lies below `2 ^ 128 - 2 ^ 103`, and the infinite float of its sign
otherwise. -/
theorem encode_float4_number (n : Json.Number) :
    ∃ bs, encode .float4 (.number n) = .ok (some bs) ∧ bs.length = 4 ∧
      ((singleValue bs).isFinite = true ↔ |n.value| < 2 ^ 128 - 2 ^ 103) ∧
      (singleValue bs = ⟨decide (n.value < 0), Format.single.infinity⟩ ↔
        2 ^ 128 - 2 ^ 103 ≤ |n.value|) := by
  have hfinite := n.isFinite_toBinary
  have hbits : 2 ≤ Format.single.exponentBits := by decide
  have hiff : (n.toBinary.convert Format.single).isFinite = true ↔
      |n.value| < 2 ^ 128 - 2 ^ 103 := by
    rw [Binary.isFinite_convert_iff hbits hfinite, n.abs_value_lt_overflow_iff,
      Format.overflow_single]
  refine ⟨bigEndian 4 (n.toBinary.convert Format.single).bits, rfl, bigEndian_length _ _, ?_⟩
  rw [singleValue_bigEndian (Binary.magnitude_convert_le hfinite)]
  refine ⟨hiff, ?_⟩
  constructor
  · intro h
    rw [← not_lt, ← hiff, h, Binary.isFinite_iff]
    exact lt_irrefl _
  · intro h
    have hne : n.value ≠ 0 := by
      intro hzero
      rw [hzero] at h
      norm_num at h
    rw [← Json.Number.negative_toBinary hne]
    apply Binary.convert_eq_infinity hbits hfinite
    rw [← not_lt, n.abs_value_lt_overflow_iff, Format.overflow_single, not_lt]
    exact h

/-- The number that is written `1e39`. -/
def tooLarge : Json.Number := .double ⟨false, 0x48078287F49C4A1D, by decide +kernel⟩

/-- The number is read from its text, lies beyond `2 ^ 128` and is bound as infinity. -/
theorem encode_float4_tooLarge :
    Json.Number.ofLiteral? false ⟨['1'], none, some ⟨false, ['3', '9']⟩⟩ = some tooLarge ∧
      2 ^ 128 ≤ |tooLarge.value| ∧
      encode .float4 (.number tooLarge) = .ok (some [0x7F, 0x80, 0, 0]) ∧
      singleValue [0x7F, 0x80, 0, 0] = ⟨false, Format.single.infinity⟩ := by
  have hunits : 2 ^ 128 * Format.double.one ≤ Format.double.units 0x48078287F49C4A1D := by
    decide +kernel
  have hbytes : bigEndian 4 ((tooLarge.toBinary.convert Format.single).bits) =
      [0x7F, 0x80, 0, 0] := by decide +kernel
  refine ⟨by decide +kernel, ?_, ?_, by decide +kernel⟩
  · have hone : (0 : ℚ) < Format.double.one := Nat.cast_pos.mpr Format.double.one_pos
    change 2 ^ 128 ≤ |tooLarge.toBinary.value|
    rw [Binary.abs_value, le_div_iff₀ hone]
    exact_mod_cast hunits
  · rw [← hbytes]
    rfl

end Binding

end FilterQuery
