import FilterQuery.Number.Rounding

/-!
# Binary interchange formats

A magnitude of a binary floating-point format is kept as its code, the natural number that the
exponent and fraction bits spell. Codes grow with the magnitudes they stand for, so the next code
is the next representable number. A finite magnitude is read as a whole number of units, the unit
being the smallest positive magnitude of the format. Main definition: `Format.nearest`, the code
nearest to a quotient of natural numbers, a tie going to the even code.
-/

namespace FilterQuery.Number

/-- A binary format is fixed by the widths of its fraction and exponent fields. -/
structure Format where
  fractionBits : Nat
  exponentBits : Nat
deriving DecidableEq

namespace Format

/-- The 32-bit format. -/
def single : Format := ⟨23, 8⟩

/-- The 64-bit format. -/
def double : Format := ⟨52, 11⟩

variable (F : Format)

/-- The number of codes with the same exponent. -/
def binade : Nat := Nat.pow 2 F.fractionBits

/-- The code of the infinite magnitude; every smaller code is finite. -/
def infinity : Nat := (Nat.pow 2 F.exponentBits - 1) * F.binade

/-- The code of the quiet magnitude that is not a number. -/
def quietNaN : Nat := F.infinity + Nat.pow 2 (F.fractionBits - 1)

/-- The number of units in one. -/
def one : Nat := Nat.pow 2 (Nat.pow 2 (F.exponentBits - 1) + F.fractionBits - 2)

/-- The sign bit, above all bits of a code. -/
def signBit : Nat := Nat.pow 2 (F.exponentBits + F.fractionBits)

/-- The number of units in the magnitude of a finite code. -/
def units (code : Nat) : Nat :=
  let shift := code / F.binade - 1
  (code - shift * F.binade) * Nat.pow 2 shift

/-- The code nearest to `num / den`, where codes from `infinity` on stand for overflow. -/
def nearestUnbounded (num den : Nat) : Nat :=
  let units := num * F.one
  let shift := (units / den).log2 - F.fractionBits
  shift * F.binade + divNearest units (den * Nat.pow 2 shift)

/-- The code nearest to `num / den`; a quotient too large for the format becomes infinite. -/
def nearest (num den : Nat) : Nat := min F.infinity (F.nearestUnbounded num den)

theorem nearest_le_infinity (num den : Nat) : F.nearest num den ≤ F.infinity :=
  Nat.min_le_left _ _

theorem nearest_lt_infinity_iff {num den : Nat} :
    F.nearest num den < F.infinity ↔ F.nearestUnbounded num den < F.infinity := by
  simp only [nearest]
  omega

@[simp] theorem units_zero : F.units 0 = 0 := by simp [units]

@[simp] theorem nearest_zero (den : Nat) : F.nearest 0 den = 0 := by
  simp [nearest, nearestUnbounded, divNearest]

end Format

/-- A signed number of a binary format, infinities and values that are not numbers included. -/
structure Binary (F : Format) where
  negative : Bool
  magnitude : Nat
deriving DecidableEq

namespace Binary

variable {F : Format}

/-- A number is finite when its code lies below the infinite one. -/
def isFinite (x : Binary F) : Bool := x.magnitude < F.infinity

theorem isFinite_iff {x : Binary F} : x.isFinite = true ↔ x.magnitude < F.infinity := by
  simp [isFinite]

/-- The bits of a number, its sign first. -/
def bits (x : Binary F) : Nat := (if x.negative then F.signBit else 0) + x.magnitude

/-- The number of the same sign and the nearest magnitude in another format. -/
def convert (G : Format) (x : Binary F) : Binary G :=
  if x.magnitude < F.infinity then ⟨x.negative, G.nearest (F.units x.magnitude) F.one⟩
  else if x.magnitude = F.infinity then ⟨x.negative, G.infinity⟩
  else ⟨x.negative, G.quietNaN⟩

@[simp] theorem convert_negative (G : Format) (x : Binary F) :
    (x.convert G).negative = x.negative := by
  unfold convert
  split
  · rfl
  · split <;> rfl

end Binary

end FilterQuery.Number
