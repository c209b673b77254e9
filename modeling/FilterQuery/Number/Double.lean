import FilterQuery.Number.Shortest

/-!
# Finite 64-bit numbers

The floating-point numbers that a JSON document can hold, with the two operations that reading one
needs: multiplying and dividing by a power of ten, each rounded to nearest.
-/

namespace FilterQuery.Number

/-- A finite number of the 64-bit binary format. -/
structure Double where
  negative : Bool
  magnitude : Nat
  finite : magnitude < Format.double.infinity
deriving DecidableEq

namespace Double

/-- The same number among all numbers of the format. -/
def toBinary (x : Double) : Binary Format.double := ⟨x.negative, x.magnitude⟩

/-- The number of the given sign and magnitude code, if that is finite. -/
def ofMagnitude? (negative : Bool) (magnitude : Nat) : Option Double :=
  if h : magnitude < Format.double.infinity then some ⟨negative, magnitude, h⟩ else none

/-- Two numbers are equal when they denote the same number: the two zeros are equal. -/
protected def beq (x y : Double) : Bool :=
  x.magnitude == y.magnitude && (x.negative == y.negative || x.magnitude == 0)

instance : BEq Double := ⟨Double.beq⟩

theorem beq_iff {x y : Double} :
    (x == y) = true ↔ x.magnitude = y.magnitude ∧ (x.negative = y.negative ∨ x.magnitude = 0) := by
  change Double.beq x y = true ↔ _
  simp [Double.beq]

@[simp] theorem beq_refl (x : Double) : (x == x) = true := by simp [beq_iff]

/-- The magnitude code nearest to `10 ^ n`. -/
def powerOfTen (n : Nat) : Nat := Format.double.nearest (Nat.pow 10 n) 1

/-- The magnitude code nearest to the product of two finite magnitudes. -/
def product (a b : Nat) : Nat :=
  Format.double.nearest (Format.double.units a * Format.double.units b)
    (Format.double.one * Format.double.one)

/-- The magnitude code nearest to the quotient of two finite magnitudes. -/
def quotient (a b : Nat) : Nat :=
  Format.double.nearest (Format.double.units a) (Format.double.units b)

/-- The number as a text: its shortest digits, of two equally short and near ones the even one,
positional from `10 ^ -5` up to `10 ^ 16` and scientific outside. -/
def text (x : Double) : String :=
  let sign := if x.negative then "-" else ""
  if x.magnitude = 0 then sign ++ "0.0"
  else
    let d := Digits.shortest Format.double x.magnitude false
    sign ++ if -5 < d.point ∧ d.point ≤ 16 then d.positional else d.scientific

end Double

/-- A number of the 64-bit format as a text that is always positional: its shortest digits, of two
equally short and near ones the larger. -/
def Binary.positionalText (x : Binary Format.double) : String :=
  if Format.double.infinity < x.magnitude then "NaN"
  else (if x.negative then "-" else "") ++
    if x.magnitude = Format.double.infinity then "inf"
    else if x.magnitude = 0 then "0.0"
    else (Digits.shortest Format.double x.magnitude true).positional

end FilterQuery.Number
