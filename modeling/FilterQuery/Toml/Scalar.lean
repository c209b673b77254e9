import FilterQuery.Calendar.Timestamp
import FilterQuery.Number.Literal
import FilterQuery.Json.Token
import FilterQuery.Toml.Basic

/-!
# Bare TOML values

What a bare word means as a value: a truth value, a date or time, an integer in one of four bases,
or a float. Digits may be separated by single underscores.
-/

namespace FilterQuery.Toml

open FilterQuery.Number (Binary Format Literal)

/-- Digits without their separators, each of which stands between two digits. -/
def plainDigits? (isDigit : Char → Bool) : List Char → Option (List Char)
  | [] => none
  | [c] => if isDigit c then some [c] else none
  | c :: '_' :: cs => if isDigit c then (plainDigits? isDigit cs).map (c :: ·) else none
  | c :: cs => if isDigit c then (plainDigits? isDigit cs).map (c :: ·) else none

/-- Decimal digits without a superfluous zero. -/
def wholeDigits? (cs : List Char) : Option (List Char) := do
  let digits ← plainDigits? Char.isDigit cs
  if 1 < digits.length ∧ digits.head? = some '0' then none else return digits

/-- A non-negative integer in another base: `0x`, `0o` or `0b` and digits. -/
def basedInteger? : List Char → Option Int
  | '0' :: 'x' :: cs => inBase 16 cs
  | '0' :: 'o' :: cs => inBase 8 cs
  | '0' :: 'b' :: cs => inBase 2 cs
  | _ => none
where
  /-- The integer that digits stand for in a base. -/
  inBase (base : Nat) (cs : List Char) : Option Int := do
    let value? (c : Char) := (Json.Token.hexValue? c).filter (· < base)
    let digits ← plainDigits? (fun c => (value? c).isSome) cs
    return digits.foldl (fun n c => base * n + ((value? c).getD 0 : Nat)) (0 : Nat)

/-- The sign in front of a number, and the rest. -/
def spanSign : List Char → Bool × List Char
  | '-' :: cs => (true, cs)
  | '+' :: cs => (false, cs)
  | cs => (false, cs)

/-- A float: digits, a fraction or an exponent or both. It must not be too large to be finite. -/
def float? (negative : Bool) (cs : List Char) : Option Toml := do
  let isPart (c : Char) : Bool := c.isDigit || c == '_'
  let whole ← wholeDigits? (cs.takeWhile isPart)
  let rest := cs.dropWhile isPart
  let (fraction, rest) ← match rest with
    | '.' :: r => do
      pure ((← plainDigits? Char.isDigit (r.takeWhile isPart)), r.dropWhile isPart)
    | r => pure ([], r)
  let exponent ← match rest with
    | [] => pure none
    | mark :: r =>
      if mark = 'e' ∨ mark = 'E' then do
        let (sign, digits) := spanSign r
        pure (some ⟨sign, ← plainDigits? Char.isDigit digits⟩)
      else none
  let magnitude := (Literal.mk whole (some fraction) exponent).nearest Format.double
  if magnitude < Format.double.infinity then return .float ⟨negative, magnitude⟩ else none

/-- An integer, if it fits 64 bits with a sign. -/
def integer? (n : Int) : Option Toml :=
  if -0x8000000000000000 ≤ n ∧ n < 0x8000000000000000 then some (.integer n) else none

/-- A number with an optional sign. -/
def number? (cs : List Char) : Option Toml :=
  let (negative, body) := spanSign cs
  if body = ['i', 'n', 'f'] then some (.float ⟨negative, Format.double.infinity⟩)
  else if body = ['n', 'a', 'n'] then some (.float ⟨negative, Format.double.quietNaN⟩)
  else match basedInteger? cs with
    | some n => integer? n
    | none =>
      match wholeDigits? body with
      | some digits =>
        let n : Int := Text.decimalValue digits
        integer? (if negative then -n else n)
      | none => float? negative body

/-- Drops a day off the front of a text. -/
def dropDay? (cs : List Char) : Option (List Char) := do
  let (year, cs) ← Calendar.readNumber? 4 4 cs
  let cs ← Calendar.readMark? '-' cs
  let (month, cs) ← Calendar.readNumber? 2 2 cs
  let cs ← Calendar.readMark? '-' cs
  let (day, cs) ← Calendar.readNumber? 2 2 cs
  let _ ← Calendar.Date.ofFields? year month day
  return cs

/-- Drops a time of day off the front of a text; the seconds may be missing. -/
def dropTime? (cs : List Char) : Option (List Char) := do
  let (hour, cs) ← Calendar.readNumber? 2 2 cs
  let cs ← Calendar.readMark? ':' cs
  let (minute, cs) ← Calendar.readNumber? 2 2 cs
  let (second, cs) ← match cs with
    | ':' :: r => do
      let (second, r) ← Calendar.readNumber? 2 2 r
      let (_, r) ← Calendar.readFraction? r
      pure (second, r)
    | r => pure (0, r)
  let _ ← Calendar.timeOfDay? hour minute second 0
  return cs

/-- The text is a time of day, an offset from UTC allowed behind it. -/
def isTime (cs : List Char) : Bool :=
  match dropTime? cs with
  | some [] => true
  | some rest => (Calendar.readOffset? rest).any (·.2.isEmpty) && !rest.contains '−'
  | none => false

/-- The text is a day, a time of day, or both. -/
def isDatetime (cs : List Char) : Bool :=
  match dropDay? cs with
  | some [] => true
  | some (mark :: rest) => (mark == 'T' || mark == 't' || mark == ' ') && isTime rest
  | none => dropTime? cs == some []

/-- The value that a bare word stands for. -/
def scalar? (cs : List Char) : Option Toml :=
  if cs = ['t', 'r', 'u', 'e'] then some (.boolean true)
  else if cs = ['f', 'a', 'l', 's', 'e'] then some (.boolean false)
  else if isDatetime cs then some .datetime
  else number? cs

end FilterQuery.Toml
