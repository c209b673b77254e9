/-!
# Calendar days

Days of the proleptic Gregorian calendar, the year before year 1 being year 0, and their distance
in days from 2000-01-01.
-/

namespace FilterQuery.Calendar

/-- A year is a leap year when it is divisible by 4, unless by 100 but not by 400. -/
def isLeapYear (year : Int) : Bool :=
  year % 4 = 0 && (year % 100 ≠ 0 || year % 400 = 0)

/-- The lengths of the months of a year. -/
def monthLengths (leap : Bool) : List Nat :=
  [31, if leap then 29 else 28, 31, 30, 31, 30, 31, 31, 30, 31, 30, 31]

/-- The number of days in a month counted from 1; a month that does not exist has none. -/
def daysInMonth (year : Int) (month : Nat) : Nat :=
  if month = 0 then 0 else (monthLengths (isLeapYear year))[month - 1]?.getD 0

/-- A calendar day. -/
structure Date where
  year : Int
  month : Nat
  day : Nat
deriving DecidableEq

namespace Date

/-- The day exists and its year is one the calendar covers. -/
def IsValid (d : Date) : Prop :=
  -262143 ≤ d.year ∧ d.year ≤ 262142 ∧ 1 ≤ d.day ∧ d.day ≤ daysInMonth d.year d.month

instance (d : Date) : Decidable d.IsValid := by unfold IsValid; infer_instance

/-- Days before the first of January of a year, counted from year 1. -/
def daysBeforeYear (year : Int) : Int :=
  let past := year - 1
  365 * past + past / 4 - past / 100 + past / 400

/-- Days of a year before the first of a month. -/
def daysBeforeMonth (year : Int) (month : Nat) : Nat :=
  ((monthLengths (isLeapYear year)).take (month - 1)).foldl (· + ·) 0

/-- Days from 2000-01-01 to the given day. -/
def daysSince2000 (d : Date) : Int :=
  daysBeforeYear d.year - daysBeforeYear 2000 + daysBeforeMonth d.year d.month + d.day - 1

example : daysSince2000 ⟨2000, 1, 1⟩ = 0 := by decide

example : daysSince2000 ⟨1970, 1, 1⟩ = -10957 := by decide

end Date

end FilterQuery.Calendar
