import FilterQuery.Json.Printer
import FilterQuery.Number.Float
import FilterQuery.Number.Integer

/-!
# Binding problems

Why a value cannot be bound as a type, as causes with their wording.
-/

namespace FilterQuery.Binding

/-- What a value is read as. -/
inductive Target where
  | boolean
  | integer
  | float
  | number
  | timestamp
  | date
deriving DecidableEq

/-- The wording of a target. -/
def Target.text : Target → String
  | boolean => "a boolean"
  | integer => "an integer"
  | float => "a float"
  | number => "a number"
  | timestamp => "a timestamp string"
  | date => "a date string"

/-- Why a value cannot be bound. -/
inductive Problem where
  /-- The type is none that values can be bound as. -/
  | wrongType
  /-- The value is of a kind that the target does not take. -/
  | mismatch (value : Json) (target : Target)
  /-- The number is a fraction or does not fit 64 bits with a sign. -/
  | notInteger (number : Json.Number)
  | integerText (problem : Number.IntegerProblem)
  | floatText (problem : Number.FloatProblem)
  /-- The integer does not fit the type. -/
  | integerRange
  /-- The number is no decimal of 96 bits. -/
  | decimal
  /-- The text is no date or time. -/
  | datetime

/-- The wording of a problem, if it has any. -/
def Problem.message? : Problem → Option String
  | mismatch value target => some ("cannot bind " ++ value.text ++ " as " ++ target.text)
  | notInteger number => some (number.text ++ " is not an integer")
  | integerText problem => some problem.message
  | floatText problem => some problem.message
  | wrongType | integerRange | decimal | datetime => none

end FilterQuery.Binding
