import FilterQuery.Text.Digits

/-!
# Scaled decimals of 96 bits

A scaled decimal is a coefficient below `2 ^ 96` with at most 28 fractional digits and a sign.
`Scaled.read?` reads positional notation, `Scaled.readScientific?` the same followed by an exponent.

## Implementation notes

Digits that no longer fit are settled by the first of them alone: half or more rounds away from
zero. Behind it only digits and separators may follow. A whole part that does not fit is refused.
-/

namespace FilterQuery.Number

/-- A decimal `± coefficient / 10 ^ scale`. -/
structure Scaled where
  negative : Bool
  coefficient : Nat
  scale : Nat
deriving DecidableEq

namespace Scaled

/-- Coefficients stay below this bound. -/
def limit : Nat := 0x1000000000000000000000000

/-- No decimal has more fractional digits than this. -/
def maxScale : Nat := 28

/-- Zero has no sign. -/
def make (negative : Bool) (coefficient scale : Nat) : Scaled :=
  ⟨negative && coefficient != 0, coefficient, scale⟩

/-- Rounds a coefficient away from zero if the digit behind it is half or more. A coefficient that
no longer fits gives up its last place. -/
def roundAt? (negative : Bool) (coefficient scale digit : Nat) : Option Scaled :=
  if digit < 5 then some (make negative coefficient scale)
  else if coefficient + 1 < limit then some (make negative (coefficient + 1) scale)
  else if scale = 0 then none
  else some (make negative ((coefficient + 5) / 10) (scale - 1))

/-- Rounds a coefficient by the digits behind it, of which the first counts; a separator in its place
counts as zero. -/
def roundBy? (negative : Bool) (coefficient scale : Nat) (rest : List Char) : Option Scaled :=
  if rest.all fun c => c.isDigit || c == '_' then
    let digit := match rest with
      | c :: _ => if c.isDigit then Text.digitValue c else 0
      | [] => 0
    roundAt? negative coefficient scale digit
  else none

/-- What is left to round by behind the last place. Separators are passed over once the other places
hold at least this much; below it a separator ends the number. -/
def behindLastPlace (others : Nat) (rest : List Char) : List Char :=
  if 0x10000000000000000 / 10 - 255 ≤ others then rest.dropWhile (· == '_') else rest

/-- Reads digits, at most one point, and separators behind a digit. `pointed` says whether the point
has been passed, `begun` whether a digit has. -/
def readDigits? (negative : Bool) (pointed begun : Bool) (coefficient scale : Nat) :
    List Char → Option Scaled
  | [] => if begun then some (make negative coefficient scale) else none
  | c :: cs =>
    if c.isDigit then
      let grown := 10 * coefficient + Text.digitValue c
      let places := if pointed then scale + 1 else scale
      if limit ≤ grown then
        if pointed then roundBy? negative coefficient scale (c :: cs) else none
      else if pointed && maxScale ≤ places then
        roundBy? negative grown places (behindLastPlace coefficient cs)
      else readDigits? negative pointed true grown places cs
    else if c == '.' && !pointed then readDigits? negative true begun coefficient scale cs
    else if c == '_' && begun then readDigits? negative pointed true coefficient scale cs
    else none

/-- Reads a decimal in positional notation with an optional sign. -/
def read? : List Char → Option Scaled
  | '-' :: cs => readDigits? true false false 0 0 cs
  | '+' :: cs => readDigits? false false false 0 0 cs
  | cs => readDigits? false false false 0 0 cs

/-- Reads the magnitude of an exponent: digits, a plus sign before them allowed. It is at most the
greatest number of places. -/
def readExponent? (cs : List Char) : Option Nat :=
  let digits := match cs with
    | '+' :: ds => ds
    | ds => ds
  if digits.isEmpty || !digits.all Char.isDigit then none
  else
    let n := Text.decimalValue digits
    if n ≤ maxScale then some n else none

/-- Divides by `10 ^ n`. Places beyond the last one are dropped, half of the last one or more
rounding away from zero. -/
def shiftDown (d : Scaled) (n : Nat) : Scaled :=
  let surplus := d.scale + n - maxScale
  if surplus = 0 then { d with scale := d.scale + n }
  else
    let unit := Nat.pow 10 surplus
    make d.negative ((2 * d.coefficient + unit) / (2 * unit)) maxScale

/-- Multiplies by `10 ^ n`, if the product fits. -/
def shiftUp? (d : Scaled) (n : Nat) : Option Scaled :=
  if n ≤ d.scale then some { d with scale := d.scale - n }
  else
    let whole := d.coefficient * Nat.pow 10 (n - d.scale)
    if whole < limit then some (make d.negative whole 0) else none

/-- Multiplies by a power of ten given by the text of its exponent; only a minus sign makes it
negative. -/
def shiftBy? (d : Scaled) : List Char → Option Scaled
  | '-' :: cs => (readExponent? cs).map d.shiftDown
  | cs => (readExponent? cs).bind d.shiftUp?

/-- Reads a decimal in scientific notation: a positional one, the letter `e` in either case and an
exponent. -/
def readScientific? (cs : List Char) : Option Scaled :=
  let isMark (c : Char) : Bool := c == 'e' || c == 'E'
  match cs.dropWhile (!isMark ·) with
  | _ :: exponent => (read? (cs.takeWhile (!isMark ·))).bind fun d => d.shiftBy? exponent
  | [] => none

end Scaled

end FilterQuery.Number
