import FilterQuery.Binding.Bytes
import FilterQuery.Binding.Convert
import FilterQuery.Binding.SqlType

/-!
# Binary encodings of bound values

The bytes that stand for a value of a type. Integers, floats, times and dates are big-endian words
of a fixed width; a numeric is a row of digits in base 10000.
-/

namespace FilterQuery.Binding

open Number (Format Scaled)

/-- The digits of a number in base 10000, most significant first. -/
def groups (n : Nat) : List Nat :=
  if n = 0 then [] else groups (n / 10000) ++ [n % 10000]

/-- A list without its trailing zeros. -/
def dropTrailingZeros (ns : List Nat) : List Nat := (ns.reverse.dropWhile (· == 0)).reverse

/-- A numeric of the wire format: its digits in base 10000, the first of which counts
`10000 ^ weight`, its sign, and how many decimal places it shows. -/
structure Numeric where
  digits : List Nat
  weight : Int
  negative : Bool
  places : Nat
deriving DecidableEq

namespace Numeric

/-- The numeric of a decimal. Zero has no digits and no places; a number with a whole part has no
zero digits at the end of its fraction. -/
def ofScaled (d : Scaled) : Numeric :=
  if d.coefficient = 0 then ⟨[], 0, false, 0⟩
  else
    let fractionGroups := (d.scale + 3) / 4
    let digits := groups (d.coefficient * Nat.pow 10 (4 * fractionGroups - d.scale))
    let wholeGroups := digits.length - fractionGroups
    let kept :=
      if fractionGroups < digits.length then
        digits.take wholeGroups ++ dropTrailingZeros (digits.drop wholeGroups)
      else digits
    ⟨kept, (digits.length : Int) - fractionGroups - 1, d.negative, d.scale⟩

/-- The bytes of a numeric: four words in front of the digits. -/
def bytes (n : Numeric) : List UInt8 :=
  bigEndian 2 n.digits.length ++ twosComplement 2 n.weight ++
    bigEndian 2 (if n.negative then 0x4000 else 0) ++ bigEndian 2 n.places ++
    n.digits.flatMap (bigEndian 2)

end Numeric

/-- An integer in a word of the given width, if it fits. -/
def integerBytes (width : Nat) (i : Int) : Except Problem (List UInt8) :=
  let half : Int := (Nat.pow 2 (8 * width - 1) : Nat)
  if -half ≤ i ∧ i < half then .ok (twosComplement width i)
  else .error .integerRange

/-- The bytes of a text. A label tree has its version, which is 1, in front. -/
def textBytes (type : SqlType) (text : String) : List UInt8 :=
  if type.isLabelTree then 1 :: utf8 text else utf8 text

/-- The bytes of a value that is not null. -/
def bytes (value : Json) : SqlType → Except Problem (List UInt8)
  | .bool => return [if ← toBoolean value then 1 else 0]
  | .int2 => do integerBytes 2 (← toInteger value)
  | .int4 => do integerBytes 4 (← toInteger value)
  | .int8 => do integerBytes 8 (← toInteger value)
  | .float4 => return bigEndian 4 ((← toFloat value).convert Format.single).bits
  | .float8 => return bigEndian 8 (← toFloat value).bits
  | .numeric => return (Numeric.ofScaled (← toScaled value)).bytes
  | .json => return utf8 value.text
  | .jsonb => return 1 :: utf8 value.text
  | .timestamp => return twosComplement 8 (← toTimestamp value)
  | .timestamptz => return twosComplement 8 (← toInstant value)
  | .date => return twosComplement 4 (← toDate value)
  | type => return textBytes type (toText value)

example : bytes (.string "a.b") (.unlisted "ltree") = .ok [1, 0x61, 0x2E, 0x62] := by cbv

/-- The bytes of a value, none for null, which is null in every type. -/
def encode (type : SqlType) (value : Json) : Except Problem (Option (List UInt8)) :=
  if value.isNull then .ok none else (bytes value type).map some

/-- The bytes of a value of a type that values can be bound as. -/
def encodeChecked (type : SqlType) (value : Json) : Except Problem (Option (List UInt8)) :=
  if type.isListed then encode type value else .error .wrongType

@[simp] theorem encode_null (type : SqlType) : encode type .null = .ok none := rfl

/-- A parameter as it is shown to a developer. -/
def outline (value : Json) : String := "Param(" ++ value.outline ++ ")"

end FilterQuery.Binding
