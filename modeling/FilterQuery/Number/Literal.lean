import FilterQuery.Number.Binary
import FilterQuery.Text.Digits

/-!
# Decimal literals

A decimal literal is a run of digits, an optional fraction and an optional exponent. `Literal.span`
cuts the longest one off a text; which of its parts may be empty is up to the format that reads it.
`nearestDecimal` rounds the number that a literal denotes to a binary format.
-/

namespace FilterQuery.Number

/-- The exponent part of a literal: its sign and its digits. -/
structure Exponent where
  negative : Bool
  digits : List Char
deriving DecidableEq

/-- An unsigned decimal literal; a part is `none` when its mark (`.` or `e`) is missing. -/
structure Literal where
  whole : List Char
  fraction : Option (List Char)
  exponent : Option Exponent
deriving DecidableEq

namespace Literal

/-- Reads a fraction if the text starts with a point. -/
def spanFraction : List Char → Option (List Char) × List Char
  | '.' :: cs => (some (Text.spanDigits cs).1, (Text.spanDigits cs).2)
  | cs => (none, cs)

/-- Reads the sign and digits of an exponent. -/
def spanSigned : List Char → Exponent × List Char
  | '-' :: cs => (⟨true, (Text.spanDigits cs).1⟩, (Text.spanDigits cs).2)
  | '+' :: cs => (⟨false, (Text.spanDigits cs).1⟩, (Text.spanDigits cs).2)
  | cs => (⟨false, (Text.spanDigits cs).1⟩, (Text.spanDigits cs).2)

/-- Reads an exponent if the text starts with its letter, in either case. -/
def spanExponent : List Char → Option Exponent × List Char
  | 'e' :: cs => (some (spanSigned cs).1, (spanSigned cs).2)
  | 'E' :: cs => (some (spanSigned cs).1, (spanSigned cs).2)
  | cs => (none, cs)

/-- Cuts the longest literal off the front of a text. -/
def span (cs : List Char) : Literal × List Char :=
  let whole := Text.spanDigits cs
  let fraction := spanFraction whole.2
  let exponent := spanExponent fraction.2
  (⟨whole.1, fraction.1, exponent.1⟩, exponent.2)

/-- Reads a text that is nothing but one literal. -/
def read? (cs : List Char) : Option Literal :=
  match span cs with
  | (l, []) => some l
  | _ => none

end Literal

/-- The magnitude of a format nearest to `digits * 10 ^ exponent`, the digits read as one number.
Powers of ten far outside the format are not computed: the answer is infinite or zero. -/
def nearestDecimal (F : Format) (digits : List Char) (exponent : Int) : Nat :=
  let significant := digits.dropWhile (· == '0')
  let mantissa := Text.decimalValue significant
  let reach : Int := (Nat.pow 2 F.exponentBits : Nat)
  if mantissa = 0 then 0
  else if reach < exponent + significant.length then F.infinity
  else if exponent + significant.length < -reach then 0
  else if 0 ≤ exponent then F.nearest (mantissa * Nat.pow 10 exponent.toNat) 1
  else F.nearest mantissa (Nat.pow 10 (-exponent).toNat)

/-- The value of an exponent part. -/
def Exponent.value (e : Exponent) : Int :=
  if e.negative then -(Text.decimalValue e.digits : Int) else Text.decimalValue e.digits

/-- The magnitude of a format nearest to the number that a literal denotes. -/
def Literal.nearest (F : Format) (l : Literal) : Nat :=
  let fraction := l.fraction.getD []
  nearestDecimal F (l.whole ++ fraction) ((l.exponent.elim 0 Exponent.value) - fraction.length)

end FilterQuery.Number
