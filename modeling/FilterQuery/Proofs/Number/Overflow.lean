import Mathlib
import FilterQuery.Number.Binary

/-!
# Overflow of a binary format

A magnitude becomes infinite when it lies half a step or more beyond the greatest finite number of
the format. Main statements: `Format.nearest_lt_infinity_iff_lt_overflow` for a quotient, and
`Binary.isFinite_convert_iff` for a number of another format.
-/

namespace FilterQuery.Number

namespace Format

/-- The shift of the greatest finite codes. -/
def topShift (F : Format) : Nat := 2 ^ F.exponentBits - 3

/-- The least magnitude that is rounded to infinity: half a step beyond the greatest finite one. -/
def overflow (F : Format) : ℚ := (2 ^ (F.fractionBits + 2) - 1) * 2 ^ F.topShift / (2 * F.one)

end Format

variable {F : Format} {num den n : Nat}

/-- A quotient is rounded to a number below an even one exactly if it lies more than one half below:
at one half the even one wins. -/
theorem divNearest_lt_iff (hden : 0 < den) (hn : 0 < n) (heven : n % 2 = 0) :
    divNearest num den < n ↔ 2 * num + den < 2 * (n * den) := by
  have hdiv := Nat.div_add_mod num den
  have hmod := Nat.mod_lt num hden
  rcases lt_trichotomy (num / den + 1) n with hlow | heq | hhigh
  · have hle : (num / den + 2) * den ≤ n * den := Nat.mul_le_mul_right den hlow
    have hnearest := divNearest_eq_or num den
    constructor
    · intro _
      linarith
    · intro _
      omega
  · subst heq
    have hodd : num / den % 2 = 1 := by omega
    rw [divNearest]
    simp only [hodd]
    have : 2 * ((num / den + 1) * den) = 2 * (den * (num / den)) + 2 * den := by ring
    split
    · omega
    · split <;> omega
  · have hge : n * den ≤ den * (num / den) := by
      rw [Nat.mul_comm]
      exact Nat.mul_le_mul_left den (by omega)
    have hnearest := divNearest_eq_or num den
    omega

namespace Format

variable (F)

/-- How far the units of a quotient are shifted so that the fraction field holds them. -/
def shiftOf (num den : Nat) : Nat := (num * F.one / den).log2 - F.fractionBits

theorem nearestUnbounded_eq (num den : Nat) :
    F.nearestUnbounded num den = F.shiftOf num den * 2 ^ F.fractionBits +
      divNearest (num * F.one) (den * 2 ^ F.shiftOf num den) := rfl

theorem infinity_eq : F.infinity = (2 ^ F.exponentBits - 1) * 2 ^ F.fractionBits := rfl

theorem units_lt_of_shiftOf (num : Nat) (hden : 0 < den) :
    num * F.one < 2 ^ (F.fractionBits + 1) * (den * 2 ^ F.shiftOf num den) := by
  have hlog : num * F.one / den < 2 ^ ((num * F.one / den).log2 + 1) := Nat.lt_log2_self
  have hle : (num * F.one / den).log2 + 1 ≤ F.fractionBits + 1 + F.shiftOf num den := by
    unfold shiftOf
    omega
  calc num * F.one
    _ < 2 ^ (F.fractionBits + 1 + F.shiftOf num den) * den :=
      (Nat.div_lt_iff_lt_mul hden).mp (hlog.trans_le (Nat.pow_le_pow_right (by norm_num) hle))
    _ = 2 ^ (F.fractionBits + 1) * (den * 2 ^ F.shiftOf num den) := by ring

theorem le_units_of_shiftOf (hden : 0 < den) (hshift : 0 < F.shiftOf num den) :
    2 ^ F.fractionBits * (den * 2 ^ F.shiftOf num den) ≤ num * F.one := by
  have hlog : (num * F.one / den).log2 = F.fractionBits + F.shiftOf num den := by
    unfold shiftOf at hshift ⊢
    omega
  have hne : num * F.one / den ≠ 0 := by
    intro h
    rw [h, Nat.log2_zero] at hlog
    omega
  have hle := Nat.log2_self_le hne
  rw [hlog] at hle
  calc 2 ^ F.fractionBits * (den * 2 ^ F.shiftOf num den)
    _ = 2 ^ (F.fractionBits + F.shiftOf num den) * den := by ring
    _ ≤ num * F.one := (Nat.le_div_iff_mul_le hden).mp hle

theorem divNearest_le_of_lt (hden : 0 < den) (h : num < n * den) : divNearest num den ≤ n := by
  have := (Nat.div_lt_iff_lt_mul hden).mpr h
  have := divNearest_eq_or num den
  omega

theorem le_divNearest_of_le (hden : 0 < den) (h : n * den ≤ num) : n ≤ divNearest num den := by
  have := (Nat.le_div_iff_mul_le hden).mpr h
  have := divNearest_eq_or num den
  omega

theorem double_step_le (den : Nat) {shift shift' : Nat} (h : shift < shift') :
    2 * (den * 2 ^ shift) ≤ den * 2 ^ shift' := by
  calc 2 * (den * 2 ^ shift)
    _ = den * 2 ^ (shift + 1) := by ring
    _ ≤ den * 2 ^ shift' := Nat.mul_le_mul_left _ (Nat.pow_le_pow_right (by norm_num) h)

/-- The nearest code is finite exactly if twice the units stay below an odd multiple of the step of
the greatest finite codes. The cases are those of the shift: below the greatest one the code is
finite in any case, and above it infinite in any case. -/
theorem nearestUnbounded_lt_infinity_iff (hbits : 2 ≤ F.exponentBits) (hden : 0 < den) :
    F.nearestUnbounded num den < F.infinity ↔
      2 * (num * F.one) + den * 2 ^ F.topShift <
        2 * (2 ^ (F.fractionBits + 1) * (den * 2 ^ F.topShift)) := by
  have htop : 2 ^ F.exponentBits - 1 = F.topShift + 2 := by
    have : 2 ^ 2 ≤ 2 ^ F.exponentBits := Nat.pow_le_pow_right (by norm_num) hbits
    unfold topShift
    omega
  have hpos : 0 < den * 2 ^ F.shiftOf num den := by positivity
  have htopPos : 0 < den * 2 ^ F.topShift := by positivity
  have hone : 1 ≤ 2 ^ F.fractionBits := Nat.one_le_two_pow
  have hstep : 2 ^ (F.fractionBits + 1) = 2 * 2 ^ F.fractionBits := pow_succ' 2 _
  have hupper := F.units_lt_of_shiftOf num hden
  have hnearest := divNearest_le_of_lt hpos hupper
  rw [nearestUnbounded_eq, infinity_eq, htop]
  rcases lt_trichotomy (F.shiftOf num den) F.topShift with hlow | heq | hhigh
  · have hcodes := Nat.mul_le_mul_right (2 ^ F.fractionBits) (Nat.succ_le_of_lt hlow)
    have hsteps := Nat.mul_le_mul_left (2 ^ F.fractionBits) (double_step_le den hlow)
    have hwhole := Nat.le_mul_of_pos_left (den * 2 ^ F.topShift) hone
    rw [hstep] at hupper hnearest ⊢
    apply iff_of_true <;> linarith
  · rw [heq, hstep] at hupper hnearest ⊢
    rw [← divNearest_lt_iff (by positivity) (by positivity) (by omega)]
    constructor <;> intro h <;> linarith
  · have hcodes := Nat.mul_le_mul_right (2 ^ F.fractionBits) (Nat.succ_le_of_lt hhigh)
    have hsteps := Nat.mul_le_mul_left (2 ^ F.fractionBits) (double_step_le den hhigh)
    have hlower := F.le_units_of_shiftOf hden (Nat.zero_lt_of_lt hhigh)
    have hge := le_divNearest_of_le hpos hlower
    rw [hstep]
    apply iff_of_false <;> rw [not_lt] <;> linarith

theorem one_pos : 0 < F.one := Nat.pow_pos (by norm_num)

theorem nearest_lt_infinity_iff_lt_overflow (hbits : 2 ≤ F.exponentBits) (hden : 0 < den) :
    F.nearest num den < F.infinity ↔ (num / den : ℚ) < F.overflow := by
  have hpos : (0 : ℚ) < den := Nat.cast_pos.mpr hden
  have hone : (0 : ℚ) < F.one := Nat.cast_pos.mpr F.one_pos
  have hleft : (num : ℚ) * (2 * F.one) = 2 * (num * F.one) := by ring
  have hright : (2 ^ (F.fractionBits + 2) - 1) * 2 ^ F.topShift * (den : ℚ) =
      2 * (2 ^ (F.fractionBits + 1) * (den * 2 ^ F.topShift)) - den * 2 ^ F.topShift := by ring
  rw [nearest_lt_infinity_iff, F.nearestUnbounded_lt_infinity_iff hbits hden, overflow,
    div_lt_div_iff₀ hpos (by positivity), hleft, hright, lt_sub_iff_add_lt]
  exact_mod_cast Iff.rfl

theorem overflow_single : single.overflow = 2 ^ 128 - 2 ^ 103 := by
  norm_num [overflow, topShift, one, single]

/-- A code stands for less than twice the greatest multiple of its step in the fraction field. -/
theorem units_lt {code shift : Nat} (h : code < (shift + 2) * 2 ^ F.fractionBits) :
    F.units code < 2 ^ (F.fractionBits + 1) * 2 ^ shift := by
  have hpos : 0 < 2 ^ F.fractionBits := by positivity
  have hdiv : code / 2 ^ F.fractionBits < shift + 2 := (Nat.div_lt_iff_lt_mul hpos).mpr h
  have hmod := Nat.div_add_mod code (2 ^ F.fractionBits)
  have hlt := Nat.mod_lt code hpos
  have hfraction : code - (code / 2 ^ F.fractionBits - 1) * 2 ^ F.fractionBits <
      2 ^ (F.fractionBits + 1) := by
    rw [pow_succ]
    cases hexponent : code / 2 ^ F.fractionBits with
    | zero =>
        rw [hexponent] at hmod
        omega
    | succ exponent =>
        rw [hexponent, Nat.mul_comm, Nat.add_mul] at hmod
        rw [Nat.add_sub_cancel]
        omega
  have hpow : 2 ^ (code / 2 ^ F.fractionBits - 1) ≤ 2 ^ shift :=
    Nat.pow_le_pow_right (by norm_num) (by omega)
  exact Nat.mul_lt_mul_of_lt_of_le hfraction hpow (by positivity)

theorem shiftOf_le {shift : Nat} (hden : 0 < den)
    (h : num * F.one < 2 ^ (F.fractionBits + 1) * (den * 2 ^ shift)) :
    F.shiftOf num den ≤ shift := by
  have hquotient : num * F.one / den < 2 ^ (F.fractionBits + 1 + shift) := by
    rw [Nat.div_lt_iff_lt_mul hden]
    calc num * F.one
      _ < 2 ^ (F.fractionBits + 1) * (den * 2 ^ shift) := h
      _ = 2 ^ (F.fractionBits + 1 + shift) * den := by ring
  rw [shiftOf]
  by_cases hzero : num * F.one / den = 0
  · simp [hzero]
  · have := (Nat.log2_lt hzero).mpr hquotient
    omega

/-- A quotient of moderate size has a code of moderate size. -/
theorem nearest_le {shift : Nat} (hden : 0 < den)
    (h : num * F.one < 2 ^ (F.fractionBits + 1) * (den * 2 ^ shift)) :
    F.nearest num den ≤ (shift + 2) * 2 ^ F.fractionBits := by
  have hpos : 0 < den * 2 ^ F.shiftOf num den := by positivity
  calc F.nearest num den
    _ ≤ F.nearestUnbounded num den := Nat.min_le_right _ _
    _ ≤ F.shiftOf num den * 2 ^ F.fractionBits + 2 ^ (F.fractionBits + 1) := by
      rw [nearestUnbounded_eq]
      exact Nat.add_le_add_left (divNearest_le_of_lt hpos (F.units_lt_of_shiftOf num hden)) _
    _ = (F.shiftOf num den + 2) * 2 ^ F.fractionBits := by ring
    _ ≤ (shift + 2) * 2 ^ F.fractionBits :=
      Nat.mul_le_mul_right _ (Nat.add_le_add_right (F.shiftOf_le hden h) 2)

end Format

namespace Binary

variable {G : Format} {x : Binary F}

/-- The number that a finite code and its sign stand for. -/
def value (x : Binary F) : ℚ := (if x.negative then -1 else 1) * (F.units x.magnitude / F.one)

theorem abs_value (x : Binary F) : |x.value| = F.units x.magnitude / F.one := by
  have hnonneg : (0 : ℚ) ≤ F.units x.magnitude / F.one := by positivity
  rw [value, abs_mul, abs_of_nonneg hnonneg]
  split <;> simp

theorem negative_eq_decide (h : x.value ≠ 0) : x.negative = decide (x.value < 0) := by
  have hpos : (0 : ℚ) < F.units x.magnitude / F.one := by
    rw [← abs_value]
    exact abs_pos.mpr h
  cases hsign : x.negative with
  | false => simp [value, hsign, hpos.le]
  | true => simp [value, hsign, hpos]

/-- A number stays finite in another format exactly if it lies below overflow. -/
theorem isFinite_convert_iff (hbits : 2 ≤ G.exponentBits) (hx : x.isFinite = true) :
    (x.convert G).isFinite = true ↔ |x.value| < G.overflow := by
  rw [isFinite_iff] at hx
  rw [abs_value, ← G.nearest_lt_infinity_iff_lt_overflow hbits F.one_pos, isFinite_iff, convert,
    if_pos hx]

theorem magnitude_convert_le (hx : x.isFinite = true) : (x.convert G).magnitude ≤ G.infinity := by
  rw [convert, if_pos (isFinite_iff.mp hx)]
  exact G.nearest_le_infinity _ _

/-- Otherwise it becomes the infinite number of its sign. -/
theorem convert_eq_infinity (hbits : 2 ≤ G.exponentBits) (hx : x.isFinite = true)
    (hoverflow : G.overflow ≤ |x.value|) : x.convert G = ⟨x.negative, G.infinity⟩ := by
  rw [← not_lt, ← isFinite_convert_iff hbits hx, isFinite_iff, not_lt] at hoverflow
  rw [← (magnitude_convert_le hx).antisymm hoverflow, ← convert_negative G x]

end Binary

end FilterQuery.Number
