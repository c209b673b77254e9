import FilterQuery.Number.Literal

/-!
# Reading binary floating-point numbers

An optional sign and a decimal literal with at least one digit, or one of the words `inf`,
`infinity` and `nan` in any mixture of cases. A literal goes to the nearest number of the format;
one beyond its range becomes infinite.
-/

namespace FilterQuery.Number

/-- Why a text is no floating-point number. -/
inductive FloatProblem where
  | empty
  | malformed
deriving DecidableEq

/-- The wording of a float problem. -/
def FloatProblem.message : FloatProblem → String
  | empty => "cannot parse float from empty string"
  | malformed => "invalid float literal"

/-- A literal has a digit in front of its exponent, and its exponent has one. -/
def Literal.isComplete (l : Literal) : Bool :=
  (!l.whole.isEmpty || l.fraction.any (!·.isEmpty)) && l.exponent.all (!·.digits.isEmpty)

/-- The magnitude that a word stands for. -/
def Format.ofWord? (F : Format) (cs : List Char) : Option Nat :=
  let word := cs.map Char.toLower
  if word = ['i', 'n', 'f'] ∨ word = ['i', 'n', 'f', 'i', 'n', 'i', 't', 'y'] then some F.infinity
  else if word = ['n', 'a', 'n'] then some F.quietNaN
  else none

/-- Reads a magnitude. -/
def Format.readMagnitude (F : Format) (cs : List Char) : Except FloatProblem Nat :=
  match F.ofWord? cs with
  | some magnitude => .ok magnitude
  | none =>
    match Literal.read? cs with
    | some l => if l.isComplete then .ok (l.nearest F) else .error .malformed
    | none => .error .malformed

/-- Reads a number. -/
def Binary.read (F : Format) : List Char → Except FloatProblem (Binary F)
  | [] => .error .empty
  | '-' :: cs => (F.readMagnitude cs).map (⟨true, ·⟩)
  | '+' :: cs => (F.readMagnitude cs).map (⟨false, ·⟩)
  | cs => (F.readMagnitude cs).map (⟨false, ·⟩)

end FilterQuery.Number
