import FilterQuery.Text.LowerCase

/-!
# Operators and connectives

The comparison operators of a test and the two connectives that attach a node to the siblings before
it. Both are read without regard to case: a text is put into lower case and compared with the
lower-case forms.
-/

namespace FilterQuery

/-- The operator of a test on a column. -/
inductive Operator where
  | equal
  | notEqual
  | greater
  | greaterOrEqual
  | less
  | lessOrEqual
  | like
  | notLike
  | inList
  | notInList
  | between
  | notBetween
  | isNull
  | isNotNull
deriving DecidableEq, Inhabited

namespace Operator

/-- Every operator, in the order in which they are listed. -/
def all : List Operator :=
  [equal, notEqual, greater, greaterOrEqual, less, lessOrEqual, like, notLike, inList, notInList,
    between, notBetween, isNull, isNotNull]

theorem mem_all (op : Operator) : op ∈ all := by cases op <;> decide

/-- The lower-case form. -/
def text : Operator → String
  | equal => "="
  | notEqual => "!="
  | greater => ">"
  | greaterOrEqual => ">="
  | less => "<"
  | lessOrEqual => "<="
  | like => "like"
  | notLike => "not like"
  | inList => "in"
  | notInList => "not in"
  | between => "between"
  | notBetween => "not between"
  | isNull => "is null"
  | isNotNull => "is not null"

/-- The form in SQL text. -/
def sql : Operator → String
  | like => "LIKE"
  | notLike => "NOT LIKE"
  | inList => "IN"
  | notInList => "NOT IN"
  | between => "BETWEEN"
  | notBetween => "NOT BETWEEN"
  | isNull => "IS NULL"
  | isNotNull => "IS NOT NULL"
  | op => op.text

/-- The operator takes no value. -/
def isNullCheck : Operator → Bool
  | isNull | isNotNull => true
  | _ => false

/-- The operator compares a column with one value. -/
def isComparison : Operator → Bool
  | equal | notEqual | greater | greaterOrEqual | less | lessOrEqual | like | notLike => true
  | _ => false

/-- The operator with the given lower-case form. -/
def ofText? (s : String) : Option Operator := all.find? (·.text == s)

@[simp] theorem ofText?_text (op : Operator) : ofText? op.text = some op := by
  cases op <;> decide

theorem text_injective {a b : Operator} (h : a.text = b.text) : a = b := by
  have ha := ofText?_text a
  rw [h, ofText?_text] at ha
  exact (Option.some.inj ha).symm

theorem ofText?_eq_some_iff {s : String} {op : Operator} : ofText? s = some op ↔ s = op.text := by
  constructor
  · intro h
    exact (eq_of_beq (List.find?_some (p := fun o : Operator => o.text == s) h)).symm
  · rintro rfl
    exact ofText?_text op

/-- Reads an operator; the error is the text in lower case. -/
def read (s : String) : Except String Operator :=
  let form := Text.lowerCase s
  match ofText? form with
  | some op => .ok op
  | none => .error form

end Operator

/-- How a node attaches to the siblings before it. -/
inductive Connective where
  | and
  | or
deriving DecidableEq, Inhabited

namespace Connective

/-- The lower-case form. -/
def text : Connective → String
  | and => "and"
  | or => "or"

/-- The connective is `or`. -/
def isOr : Connective → Bool
  | and => false
  | or => true

@[simp] theorem isOr_iff {c : Connective} : c.isOr = true ↔ c = or := by cases c <;> simp [isOr]

/-- The connective with the given lower-case form. -/
def ofText? (s : String) : Option Connective :=
  if s = "and" then some and else if s = "or" then some or else none

@[simp] theorem ofText?_text (c : Connective) : ofText? c.text = some c := by cases c <;> decide

/-- Reads a connective; the error is the text in lower case. -/
def read (s : String) : Except String Connective :=
  let form := Text.lowerCase s
  match ofText? form with
  | some c => .ok c
  | none => .error form

end Connective

end FilterQuery
