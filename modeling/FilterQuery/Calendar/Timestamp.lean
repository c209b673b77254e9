import FilterQuery.Calendar.Date
import FilterQuery.Text.Blank
import FilterQuery.Text.Digits

/-!
# Timestamps as texts

Three notations are read. A day is `year-month-day`; a timestamp is a day, optionally followed by
`T` or blanks and a time of day; an instant is the strict notation with four-digit years, two-digit
fields and an offset from UTC. In the first two, blanks may stand before each number, fields may
have fewer digits, and a year with a sign may have more than four.

## Implementation notes

A second of 60 is a leap second: it counts as the first second of the next minute, on the same day.
-/

namespace FilterQuery.Calendar

/-- A day and the nanoseconds since its midnight; a leap second may lead past the last one. -/
structure Timestamp where
  date : Date
  nanoseconds : Nat
deriving DecidableEq

namespace Timestamp

/-- Nanoseconds from 2000-01-01 00:00:00. -/
def nanosecondsSince2000 (t : Timestamp) : Int :=
  t.date.daysSince2000 * 86400000000000 + t.nanoseconds

/-- Microseconds from 2000-01-01 00:00:00 to `offset` seconds before the timestamp, a fraction of a
microsecond cut off toward zero. -/
def microsecondsSince2000 (t : Timestamp) (offset : Int) : Int :=
  (t.nanosecondsSince2000 - offset * 1000000000).tdiv 1000

end Timestamp

/-- Reads a number of `least` to `most` digits. -/
def readNumber? (least most : Nat) (cs : List Char) : Option (Nat × List Char) :=
  let digits := (cs.take most).takeWhile Char.isDigit
  if digits.length < least then none
  else some (Text.decimalValue digits, cs.drop digits.length)

/-- Reads one given character. -/
def readMark? (mark : Char) : List Char → Option (List Char)
  | c :: cs => if c = mark then some cs else none
  | [] => none

/-- Reads a number of one or two digits after blanks. -/
def readField? (cs : List Char) : Option (Nat × List Char) := readNumber? 1 2 (Text.dropBlanks cs)

/-- Reads a year after blanks: up to four digits, or a sign and any number of digits. -/
def readYear? (cs : List Char) : Option (Int × List Char) :=
  match Text.dropBlanks cs with
  | '-' :: rest => (readNumber? 1 rest.length rest).map fun (n, r) => (-(n : Int), r)
  | '+' :: rest => (readNumber? 1 rest.length rest).map fun (n, r) => ((n : Int), r)
  | rest => (readNumber? 1 4 rest).map fun (n, r) => ((n : Int), r)

/-- The day of the given fields, if it exists. -/
def Date.ofFields? (year : Int) (month day : Nat) : Option Date :=
  if Date.IsValid ⟨year, month, day⟩ then some ⟨year, month, day⟩ else none

/-- The nanoseconds of a time of day, if its fields are in range. -/
def timeOfDay? (hour minute second nanosecond : Nat) : Option Nat :=
  if hour ≤ 23 ∧ minute ≤ 59 ∧ second ≤ 60 then
    some ((3600 * hour + 60 * minute + second) * 1000000000 + nanosecond)
  else none

/-- Reads a fraction of a second if there is one: a point and digits, those after the ninth being
dropped. -/
def readFraction? : List Char → Option (Nat × List Char)
  | '.' :: cs =>
    let digits := (Text.spanDigits cs).1
    if digits.isEmpty then none
    else
      let kept := digits.take 9
      some (Text.decimalValue kept * Nat.pow 10 (9 - kept.length), (Text.spanDigits cs).2)
  | cs => some (0, cs)

/-- Reads `year-month-day` off the front of a text. -/
def readDay? (cs : List Char) : Option (Date × List Char) := do
  let (year, cs) ← readYear? cs
  let cs ← readMark? '-' cs
  let (month, cs) ← readField? cs
  let cs ← readMark? '-' cs
  let (day, cs) ← readField? cs
  let date ← Date.ofFields? year month day
  return (date, cs)

/-- Reads `hour:minute:second` with an optional fraction off the front of a text. -/
def readTime? (cs : List Char) : Option (Nat × List Char) := do
  let (hour, cs) ← readField? cs
  let cs ← readMark? ':' cs
  let (minute, cs) ← readField? cs
  let cs ← readMark? ':' cs
  let (second, cs) ← readField? cs
  let (nanosecond, cs) ← readFraction? cs
  let time ← timeOfDay? hour minute second nanosecond
  return (time, cs)

/-- Reads a text that is a day and nothing else. -/
def Date.read? (cs : List Char) : Option Date :=
  match readDay? cs with
  | some (date, []) => some date
  | _ => none

/-- The text without a mark for the time in front of it. -/
def dropMark : List Char → List Char
  | 'T' :: cs => cs
  | cs => cs

/-- Reads a text that is a day, or a day and a time of day; a bare day means its midnight. -/
def Timestamp.read? (cs : List Char) : Option Timestamp := do
  let (date, rest) ← readDay? cs
  if rest.isEmpty then return ⟨date, 0⟩
  match ← readTime? (dropMark rest) with
  | (nanoseconds, []) => return ⟨date, nanoseconds⟩
  | _ => none

/-- Reads an offset from UTC, in seconds: `Z` in either case, or a sign (the minus sign U+2212
included), two digits for hours, a colon and two digits for minutes. -/
def readOffset? : List Char → Option (Int × List Char)
  | 'Z' :: cs => some (0, cs)
  | 'z' :: cs => some (0, cs)
  | '+' :: cs => amount cs
  | '-' :: cs => (amount cs).map fun (n, r) => (-n, r)
  | '−' :: cs => (amount cs).map fun (n, r) => (-n, r)
  | _ => none
where
  /-- Reads hours and minutes as seconds. -/
  amount (cs : List Char) : Option (Int × List Char) := do
    let (hours, cs) ← readNumber? 2 2 cs
    let cs ← readMark? ':' cs
    let (minutes, cs) ← readNumber? 2 2 cs
    if hours ≤ 23 ∧ minutes ≤ 59 then return ((3600 * hours + 60 * minutes : Nat), cs) else none

/-- A timestamp together with its offset from UTC in seconds. -/
structure Instant where
  civil : Timestamp
  offset : Int
deriving DecidableEq

/-- Reads the mark in front of the time of day of an instant. -/
def readClockMark? : List Char → Option (List Char)
  | 'T' :: cs => some cs
  | 't' :: cs => some cs
  | ' ' :: cs => some cs
  | _ => none

/-- Reads a text that is a time of day and an offset, each number with two digits. -/
def readClock? (cs : List Char) : Option (Nat × Int) := do
  let (hour, cs) ← readNumber? 2 2 cs
  let cs ← readMark? ':' cs
  let (minute, cs) ← readNumber? 2 2 cs
  let cs ← readMark? ':' cs
  let (second, cs) ← readNumber? 2 2 cs
  let (nanosecond, cs) ← readFraction? cs
  let (offset, cs) ← readOffset? cs
  if cs.isEmpty then
    let time ← timeOfDay? hour minute second nanosecond
    return (time, offset)
  else none

/-- Reads a text in the strict notation: `2000-12-31T23:59:60.5+01:00`, the `T` in either case or a
space. -/
def Instant.read? (cs : List Char) : Option Instant := do
  let (year, cs) ← readNumber? 4 4 cs
  let cs ← readMark? '-' cs
  let (month, cs) ← readNumber? 2 2 cs
  let cs ← readMark? '-' cs
  let (day, cs) ← readNumber? 2 2 cs
  let date ← Date.ofFields? year month day
  let cs ← readClockMark? cs
  let (time, offset) ← readClock? cs
  return ⟨⟨date, time⟩, offset⟩

/-- Microseconds from 2000-01-01 00:00:00 UTC. -/
def Instant.microsecondsSince2000 (i : Instant) : Int :=
  i.civil.microsecondsSince2000 i.offset

end FilterQuery.Calendar
