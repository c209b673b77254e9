import Mathlib
import FilterQuery.Binding.Encode
import FilterQuery.Proofs.Outcome

/-!
# Numbers read from bytes

The natural number and the integer that a word of bytes stands for, said without the way words are
made. `eq_bigEndian_iff` and `eq_twosComplement_iff` state that a word of a given width is
determined by its number, as long as the number fits the width. `encode_eq_some_iff` and
`encode_eq_error_iff` set null apart from the values that have bytes.
-/

namespace FilterQuery.Binding

/-- The natural number that bytes spell, most significant first. -/
def natValue (bs : List UInt8) : Nat := bs.foldl (fun n b => 256 * n + b.toNat) 0

/-- The integer that bytes spell in two's complement: the upper half of the natural numbers stands
for the negative ones. -/
def intValue (bs : List UInt8) : Int :=
  if 2 * natValue bs < 256 ^ bs.length then natValue bs else natValue bs - 256 ^ bs.length

/-- The integer fits a word in two's complement. -/
def FitsWord (width : Nat) (i : Int) : Prop := -2 ^ (8 * width - 1) ≤ i ∧ i < 2 ^ (8 * width - 1)

variable {width n : Nat} {i : Int} {bs : List UInt8}

@[simp] theorem natValue_nil : natValue [] = 0 := rfl

@[simp] theorem natValue_append_singleton (bs : List UInt8) (b : UInt8) :
    natValue (bs ++ [b]) = 256 * natValue bs + b.toNat := by
  simp [natValue, List.foldl_append]

theorem natValue_lt (bs : List UInt8) : natValue bs < 256 ^ bs.length := by
  induction bs using List.reverseRecOn with
  | nil => simp
  | append_singleton bs b ih =>
      have hb : b.toNat < 256 := b.toNat_lt
      rw [natValue_append_singleton, List.length_append, List.length_singleton, pow_succ]
      omega

theorem natValue_bigEndian (width n : Nat) : natValue (bigEndian width n) = n % 256 ^ width := by
  induction width generalizing n with
  | zero => simp [bigEndian, Nat.mod_one]
  | succ width ih =>
      rw [bigEndian, natValue_append_singleton, ih, UInt8.toNat_ofNat', pow_succ' 256 width,
        Nat.mod_mul]
      exact Nat.add_comm _ _

/-- Bytes are the word of the number that they spell. -/
theorem bigEndian_natValue (bs : List UInt8) : bigEndian bs.length (natValue bs) = bs := by
  induction bs using List.reverseRecOn with
  | nil => rfl
  | append_singleton bs b ih =>
      have hb : b.toNat < 256 := b.toNat_lt
      have hdiv : (256 * natValue bs + b.toNat) / 256 = natValue bs := by omega
      have hlast : UInt8.ofNat (256 * natValue bs + b.toNat) = b := by
        apply UInt8.toNat_inj.mp
        rw [UInt8.toNat_ofNat']
        omega
      rw [natValue_append_singleton, List.length_append, List.length_singleton, bigEndian, hdiv, ih,
        hlast]

theorem eq_bigEndian_iff (h : n < 256 ^ width) :
    bs = bigEndian width n ↔ bs.length = width ∧ natValue bs = n := by
  constructor
  · rintro rfl
    rw [bigEndian_length, natValue_bigEndian, Nat.mod_eq_of_lt h]
    exact ⟨rfl, rfl⟩
  · rintro ⟨rfl, rfl⟩
    exact (bigEndian_natValue bs).symm

/-- A word has as many numbers in its upper half as in its lower one. -/
theorem two_mul_half (hwidth : 0 < width) : 2 * (2 : Int) ^ (8 * width - 1) = 256 ^ width := by
  rw [← pow_succ', Nat.sub_add_cancel (by omega), pow_mul]
  norm_num

/-- The natural number of an integer that fits: a negative one counts from the top. -/
theorem emod_of_fitsWord (hwidth : 0 < width) (h : FitsWord width i) :
    i % 256 ^ width = if 0 ≤ i then i else i + 256 ^ width := by
  have hhalf := two_mul_half hwidth
  obtain ⟨hlow, hhigh⟩ := h
  split
  · exact Int.emod_eq_of_lt ‹_› (by omega)
  · rw [← Int.add_emod_right]
    exact Int.emod_eq_of_lt (by omega) (by omega)

theorem eq_twosComplement_iff (hwidth : 0 < width) (h : FitsWord width i) :
    bs = twosComplement width i ↔ bs.length = width ∧ intValue bs = i := by
  have hhalf := two_mul_half hwidth
  have hemod := emod_of_fitsWord hwidth h
  obtain ⟨hlow, hhigh⟩ := h
  have hword : ((256 ^ width : Nat) : Int) = 256 ^ width := by push_cast; rfl
  have hnat : (i % 256 ^ width).toNat < 256 ^ width := by
    split at hemod <;> omega
  change bs = bigEndian width (i % (256 ^ width : Nat)).toNat ↔ _
  rw [hword, eq_bigEndian_iff hnat]
  apply and_congr_right
  rintro rfl
  have hlt := natValue_lt bs
  rw [intValue]
  split at hemod <;> split <;> omega

section Values

variable {type : SqlType} {value : Json} {problem : Problem}

/-- Null is bound without bytes, any other value as its bytes. -/
theorem encode_of_ne_null (h : value ≠ .null) : encode type value = (bytes value type).map some :=
  if_neg (mt Json.isNull_iff.mp h)

theorem encode_eq_some_iff (h : value ≠ .null) :
    encode type value = .ok (some bs) ↔ bytes value type = .ok bs := by
  rw [encode_of_ne_null h, Outcome.map_eq_ok_iff]
  simp

theorem encode_eq_error_iff (h : value ≠ .null) :
    encode type value = .error problem ↔ bytes value type = .error problem := by
  rw [encode_of_ne_null h, Outcome.map_eq_error_iff]

end Values

end FilterQuery.Binding
