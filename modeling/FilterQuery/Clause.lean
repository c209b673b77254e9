import FilterQuery.Error
import FilterQuery.Json.Basic

/-!
# Clauses

A clause is a node of a predicate tree. A node with children is a group of them in parentheses; a
node without children tests its column, or stands for nothing if it has none. Its connective says
how it attaches to the sibling before it.
-/

namespace FilterQuery

/-- A node of a predicate tree. -/
structure Clause where
  column : Option String := none
  operator : Operator := .equal
  value : Json := .null
  connective : Connective := .and
  children : List Clause := []
deriving Inhabited

namespace Clause

/-- A test attached with `and`. -/
def test (column : String) (operator : Operator) (value : Json) : Clause :=
  { column := some column, operator, value }

/-- A group of clauses. -/
def group (connective : Connective) (children : List Clause) : Clause :=
  { connective, children }

/-- A childless node from the texts of its operator and connective. -/
def parse (column : Option String) (operator : String) (value : Json) (connective : String) :
    Except Error Clause := do
  let operator ← Operator.parse operator
  let connective ← Connective.parse connective
  return { column, operator, value, connective }

/-- The node has children. -/
def isGroup (c : Clause) : Bool := !c.children.isEmpty

@[simp] theorem isGroup_test (column : String) (op : Operator) (value : Json) :
    (test column op value).isGroup = false := rfl

/-- Replaces the operator by the one that a text names. -/
def setOperator (c : Clause) (operator : String) : Except Error Clause := do
  return { c with operator := ← Operator.parse operator }

/-- Replaces the connective by the one that a text names. -/
def setConnective (c : Clause) (connective : String) : Except Error Clause := do
  return { c with connective := ← Connective.parse connective }

/-- Puts clauses behind the children of a node. -/
def append (c : Clause) (children : List Clause) : Clause :=
  { c with children := c.children ++ children }

/-- The column text is the table's name, a dot and anything. -/
def isColumnOf (table column : String) : Bool := (table ++ ".").toList.isPrefixOf column.toList

theorem isColumnOf_iff {table column : String} :
    isColumnOf table column = true ↔ ∃ rest : String, column = table ++ "." ++ rest := by
  simp only [isColumnOf, List.isPrefixOf_iff_prefix]
  constructor
  · rintro ⟨rest, h⟩
    refine ⟨String.ofList rest, String.toList_injective ?_⟩
    simpa using h.symm
  · rintro ⟨rest, rfl⟩
    exact ⟨rest.toList, by simp⟩

mutual

/-- A node of the tree has a column of the table. -/
def references (table : String) : Clause → Bool
  | ⟨column, _, _, _, children⟩ =>
    column.any (isColumnOf table) || anyReferences table children

/-- A node in one of the trees has a column of the table. -/
def anyReferences (table : String) : List Clause → Bool
  | [] => false
  | c :: rest => references table c || anyReferences table rest

end

mutual

/-- Two trees are equal node by node. -/
protected def beq : Clause → Clause → Bool
  | ⟨c, o, v, r, ns⟩, ⟨c', o', v', r', ns'⟩ =>
    c == c' && o == o' && v == v' && r == r' && beqAll ns ns'

/-- Two lists of trees are equal tree by tree. -/
def beqAll : List Clause → List Clause → Bool
  | [], [] => true
  | c :: cs, d :: ds => Clause.beq c d && beqAll cs ds
  | _, _ => false

end

instance : BEq Clause := ⟨Clause.beq⟩

end Clause

end FilterQuery
