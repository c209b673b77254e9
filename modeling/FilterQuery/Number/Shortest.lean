import FilterQuery.Number.Binary
import FilterQuery.Text.Digits

/-!
# Shortest decimal digits of a binary number

The decimals that read back as a given magnitude fill the interval between the midpoints to its two
neighbours, ends included for an even code. The shortest digits are found by trying the grids of
one, two, … significant digits: on each grid only the two points around the exact magnitude can lie
in the interval if any does, and the first grid with a hit wins. Of two hits the nearer is taken;
an exact tie is left to a parameter.
-/

namespace FilterQuery.Number

/-- A positive decimal `0.d₁d₂… * 10 ^ point`, its digits given as one number. -/
structure Digits where
  digits : List Char
  point : Int
deriving DecidableEq

namespace Digits

/-- The number of decimal digits in front of the point of `num / den`, so that
`10 ^ (k - 1) ≤ num / den < 10 ^ k`. -/
def pointOf (num den : Nat) : Int :=
  if den ≤ num then (Text.decimalDigits (num / den)).length
  else
    let zeros := (Text.decimalDigits (den / num)).length - 1
    if den ≤ num * Nat.pow 10 zeros then 1 - (zeros : Int) else -(zeros : Int)

/-- The digits of `n` without trailing zeros, the point standing `point` places after the first
of `width` digits. -/
def trimmed (n width : Nat) (point : Int) : Digits :=
  let ds := Text.decimalDigits n
  ⟨(ds.reverse.dropWhile (· == '0')).reverse, point + ((ds.length : Int) - width)⟩

/-- The grid point of `width` significant digits next to the exact magnitude that still reads back
as the same code, if there is one. -/
def onGrid? (F : Format) (code : Nat) (tieUp : Bool) (point : Int) (width : Nat) : Option Nat :=
  let exact := 2 * F.units code
  let low := F.units code + F.units (code - 1)
  let high := F.units code + F.units (code + 1)
  let places := (width : Int) - point
  let up := Nat.pow 10 places.toNat
  let one := 2 * F.one * Nat.pow 10 (-places).toNat
  let inside (q : Nat) : Bool :=
    if code % 2 = 0 then low * up ≤ q * one && q * one ≤ high * up
    else low * up < q * one && q * one < high * up
  let q := exact * up / one
  if inside q then
    if inside (q + 1) then
      let sum := (2 * q + 1) * one
      if 2 * exact * up < sum then some q
      else if sum < 2 * exact * up then some (q + 1)
      else if tieUp || q % 2 = 1 then some (q + 1) else some q
    else some q
  else if inside (q + 1) then some (q + 1) else none

/-- The shortest digits that read back as a positive finite code, nearest to it among those. -/
def shortest (F : Format) (code : Nat) (tieUp : Bool) : Digits :=
  let point := pointOf (F.units code) F.one
  let widths := (List.range 17).map (· + 1)
  match widths.findSome? fun w => (onGrid? F code tieUp point w).map (w, ·) with
  | some (w, n) => trimmed n w point
  | none => ⟨[], point⟩

/-- Positional notation with at least one digit on each side of the point. -/
def positional (d : Digits) : String :=
  if d.point ≤ 0 then
    "0." ++ String.ofList (List.replicate (-d.point).toNat '0' ++ d.digits)
  else
    let whole := d.digits.take d.point.toNat
    let fraction := d.digits.drop d.point.toNat
    String.ofList (whole ++ List.replicate (d.point.toNat - whole.length) '0') ++ "." ++
      (if fraction.isEmpty then "0" else String.ofList fraction)

/-- Scientific notation: one digit, the others after a point if there are any, and an exponent that
always has a sign. -/
def scientific (d : Digits) : String :=
  let exponent := d.point - 1
  let sign := if exponent < 0 then "-" else "+"
  let fraction := d.digits.drop 1
  String.ofList (d.digits.take 1) ++
    (if fraction.isEmpty then "" else "." ++ String.ofList fraction) ++
    "e" ++ sign ++ Text.ofNat exponent.natAbs

end Digits

end FilterQuery.Number
