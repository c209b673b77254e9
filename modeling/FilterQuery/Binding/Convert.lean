import FilterQuery.Binding.Problem
import FilterQuery.Calendar.Timestamp
import FilterQuery.Number.Scaled
import FilterQuery.Text.Blank

/-!
# Reading values for binding

A value is read as what the type of its placeholder asks for. Texts are read without the blanks
around them.
-/

namespace FilterQuery.Binding

open Number (Binary Format Scaled)
open Calendar (Date Timestamp Instant)

/-- A truth value, or one of the words `true`, `t`, `1`, `false`, `f`, `0` in either case. -/
def toBoolean : Json → Except Problem Bool
  | .boolean b => .ok b
  | .string s =>
    let word := String.ofList ((Text.trim s.toList).map Char.toLower)
    if ["true", "t", "1"].contains word then .ok true
    else if ["false", "f", "0"].contains word then .ok false
    else .error (.mismatch (.string s) .boolean)
  | value => .error (.mismatch value .boolean)

/-- An integer of 64 bits with a sign. -/
def toInteger : Json → Except Problem Int
  | .number n =>
    match n.int64? with
    | some i => .ok i
    | none => .error (.notInteger n)
  | .string s => (Number.Integer.read (Text.trim s.toList)).mapError .integerText
  | value => .error (.mismatch value .integer)

/-- A floating-point number of 64 bits. -/
def toFloat : Json → Except Problem (Binary .double)
  | .number n => .ok n.toBinary
  | .string s => (Binary.read .double (Text.trim s.toList)).mapError .floatText
  | value => .error (.mismatch value .float)

/-- A decimal, in positional notation or else in scientific notation. -/
def toScaled : Json → Except Problem Scaled
  | .number n => read n.text.toList
  | .string s => read (Text.trim s.toList)
  | value => .error (.mismatch value .number)
where
  /-- Reads a decimal in either notation. -/
  read (cs : List Char) : Except Problem Scaled :=
    match (Scaled.read? cs).or (Scaled.readScientific? cs) with
    | some d => .ok d
    | none => .error .decimal

/-- The text of a date or time, without the blanks around it. -/
def toDatetimeText (target : Target) : Json → Except Problem (List Char)
  | .string s => .ok (Text.trim s.toList)
  | value => .error (.mismatch value target)

/-- A result that must be there. -/
def orDatetime {α : Type} (result : Option α) : Except Problem α :=
  result.elim (.error .datetime) .ok

/-- Microseconds since 2000 of a timestamp without an offset. -/
def toTimestamp (value : Json) : Except Problem Int := do
  let cs ← toDatetimeText .timestamp value
  return (← orDatetime (Timestamp.read? cs)).microsecondsSince2000 0

/-- Microseconds since 2000 in UTC of an instant, or of a timestamp without an offset, which is
taken to be in UTC. -/
def toInstant (value : Json) : Except Problem Int := do
  let cs ← toDatetimeText .timestamp value
  match Instant.read? cs with
  | some instant => return instant.microsecondsSince2000
  | none => return (← orDatetime (Timestamp.read? cs)).microsecondsSince2000 0

/-- Days since 2000 of a day, or of the day of a timestamp. -/
def toDate (value : Json) : Except Problem Int := do
  let cs ← toDatetimeText .date value
  match Date.read? cs with
  | some date => return date.daysSince2000
  | none => return (← orDatetime (Timestamp.read? cs)).date.daysSince2000

/-- The text of a value: a string itself, anything else as compact JSON. -/
def toText : Json → String
  | .string s => s
  | value => value.text

end FilterQuery.Binding
