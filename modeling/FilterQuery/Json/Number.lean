import FilterQuery.Json.Basic
import FilterQuery.Number.Literal

/-!
# Reading JSON numbers

A literal without fraction and exponent that fits 64 bits is an integer; any other is a float. The
digits of a float are gathered into a 64-bit number as long as they fit; that number is rounded to a
float and then multiplied or divided by a power of ten, each step rounded to nearest. So a literal
of many digits can miss its nearest float by a little.
-/

namespace FilterQuery.Json.Number

open FilterQuery.Number (Double Format Literal Exponent)

/-- Digits gathered into a 64-bit number: the number, how many were taken, how many were left. -/
structure Gathered where
  significand : Nat
  taken : Nat
  left : Nat

/-- Gathers digits behind a number until the next one would leave 64 bits. -/
def gather (significand : Nat) : List Char → Gathered
  | [] => ⟨significand, 0, 0⟩
  | c :: cs =>
    let grown := 10 * significand + Text.digitValue c
    if grown < 0x10000000000000000 then
      let rest := gather grown cs
      { rest with taken := rest.taken + 1 }
    else ⟨significand, 0, cs.length + 1⟩

/-- Divides a magnitude by `10 ^ n`, in steps of at most 308 places. -/
def scaleDown (magnitude n : Nat) : Nat :=
  if n ≤ 308 then Double.quotient magnitude (Double.powerOfTen n)
  else if magnitude = 0 then 0
  else scaleDown (Double.quotient magnitude (Double.powerOfTen 308)) (n - 308)
termination_by n
decreasing_by omega

/-- The float of a significand times a power of ten; `none` if it is too large. -/
def ofParts? (negative : Bool) (significand : Nat) (exponent : Int) : Option Number :=
  let start := Format.double.nearest significand 1
  let magnitude :=
    if exponent < 0 then scaleDown start (-exponent).toNat
    else if exponent ≤ 308 then Double.product start (Double.powerOfTen exponent.toNat)
    else if start = 0 then 0
    else Format.double.infinity
  (Double.ofMagnitude? negative magnitude).map .double

/-- The float of a significand, a power of ten and an exponent part. An exponent beyond 32 bits is
too large, unless the number is zero or the exponent negative: then it is zero. -/
def withExponent? (negative : Bool) (significand : Nat) (places : Int) :
    Option Exponent → Option Number
  | none => ofParts? negative significand places
  | some e =>
    if Text.decimalValue e.digits < 0x80000000 then ofParts? negative significand (places + e.value)
    else if significand ≠ 0 && !e.negative then none
    else ofParts? negative 0 0

/-- An integer that fits 64 bits; the negative zero is a float. -/
def ofInteger? (negative : Bool) (n : Nat) : Option Number :=
  if negative then
    if h : 0 < n ∧ n ≤ 0x8000000000000000 then some (.integer (-n) (by omega))
    else ofParts? true n 0
  else if h : n < 0x10000000000000000 then some (.integer n (by omega)) else none

/-- The number that a literal denotes. There is at least one digit in each part that is present, the
whole part has no superfluous zero, and the number is not too large for a float. -/
def ofLiteral? (negative : Bool) (l : Literal) : Option Number :=
  let superfluous := l.whole.head? == some '0' && 1 < l.whole.length
  if l.whole.isEmpty || superfluous || l.fraction == some [] ||
      (l.exponent.map (·.digits)) == some [] then none
  else
    let whole := gather 0 l.whole
    match l.fraction with
    | none =>
      if whole.left = 0 && l.exponent.isNone then ofInteger? negative whole.significand
      else withExponent? negative whole.significand whole.left l.exponent
    | some digits =>
      let fraction := gather whole.significand digits
      withExponent? negative fraction.significand (whole.left - fraction.taken) l.exponent

end FilterQuery.Json.Number
