import FilterQuery.Clause
import FilterQuery.Item
import FilterQuery.Schema

/-!
# Resolving items into clauses

A resolver says which tests on columns stand for a test on a logical field. Resolving a list of
items gives one group per item: a group item becomes the group of its items, a leaf the group of its
tests. The first problem in the order of the document is reported, within an item the connective
before the field, the field before the value and the value before the operator.
-/

namespace FilterQuery

/-- The tests on columns that stand for a test on a logical field. -/
abbrev Resolver := String → Operator → Json → List Clause

/-- A field that is an entity column is tested there; any other on its row of the attribute table,
found by its name in the tag column. -/
def Schema.resolver (s : Schema) : Resolver := fun field op value =>
  if s.entity.hasColumn field then [.test (s.entity.column field) op value]
  else
    [.test s.attributes.tag .equal (.string field), .test s.attributes.value op value]

namespace Item

/-- The connective that an item names, `and` if it names none. -/
def connective (relation : Option String) : Except Error Connective :=
  relation.elim (.ok .and) Connective.parse

/-- The operator that a leaf names, `=` if it names none. -/
def operatorOf (operator : Option String) : Except Error Operator :=
  operator.elim (.ok .equal) Operator.parse

/-- The operator named is one that takes no value. -/
def namesNullCheck (operator : Option String) : Bool :=
  match operatorOf operator with
  | .ok op => op.isNullCheck
  | .error _ => false

/-- The value of a leaf. Only a null check may do without. -/
def valueOf (operator : Option String) (value : Option Json) : Except Error Json :=
  match value with
  | some v => if !v.isNull then .ok v else missing
  | none => missing
where
  /-- The value of a leaf that has none. -/
  missing : Except Error Json :=
    if namesNullCheck operator then .ok .null else .error (.missingPart .value)

mutual

/-- The group that an item stands for. -/
def resolve (resolver : Resolver) : Item → Except Error Clause
  | group relation items => do
    let connective ← connective relation
    return .group connective (← resolveAll resolver items)
  | leaf field operator value relation => do
    let connective ← connective relation
    let field ← field.elim (.error (.missingPart .field)) .ok
    let value ← valueOf operator value
    let op ← operatorOf operator
    return .group connective (resolver field op value)

/-- The groups that items stand for, one each. -/
def resolveAll (resolver : Resolver) : List Item → Except Error (List Clause)
  | [] => .ok []
  | item :: rest => return (← resolve resolver item) :: (← resolveAll resolver rest)

end

end Item

namespace Clause

/-- Resolves items and puts their groups behind the children of a node. -/
def appendItems (c : Clause) (resolver : Resolver) (items : List Item) : Except Error Clause := do
  return c.append (← Item.resolveAll resolver items)

/-- The root of a filter: a group of the groups that its items stand for. -/
def ofItems (resolver : Resolver) (items : List Item) : Except Error Clause :=
  appendItems {} resolver items

end Clause

end FilterQuery
