import FilterQuery.Json.Basic

/-!
# Filter items

A filter is a list of items. A leaf tests one field; a group is a filter of its own. Every key but
the kind may be absent: what must be there is checked when an item is resolved.

An item is written with its kind first and its parts in order; in the JSON value of a filter the
members are sorted.
-/

namespace FilterQuery

/-- A filter item as it was written down. -/
inductive Item where
  /-- A test `field operator value`. -/
  | leaf (field operator : Option String) (value : Option Json) (relation : Option String)
  /-- A parenthesised filter. -/
  | group (relation : Option String) (items : List Item)

namespace Item

/-- A leaf with a field and a value. -/
def test (field : String) (value : Json) : Item := leaf (some field) none (some value) none

/-- A group without a connective of its own. -/
def bracket (items : List Item) : Item := group none items

/-- Sets the operator of a leaf; a group stays as it is. -/
def withOperator (operator : String) : Item → Item
  | leaf field _ value relation => leaf field (some operator) value relation
  | group relation items => group relation items

/-- Sets the connective to the preceding sibling. -/
def withRelation (relation : String) : Item → Item
  | leaf field operator value _ => leaf field operator value (some relation)
  | group _ items => group (some relation) items

/-- The connective to the preceding sibling, as written. -/
def relation? : Item → Option String
  | leaf _ _ _ relation => relation
  | group relation _ => relation

/-- The item is a group. -/
def isGroup : Item → Bool
  | leaf .. => false
  | group .. => true

@[simp] theorem relation?_withRelation (r : String) (i : Item) :
    (i.withRelation r).relation? = some r := by
  cases i <;> rfl

@[simp] theorem isGroup_withOperator (op : String) (i : Item) :
    (i.withOperator op).isGroup = i.isGroup := by
  cases i <;> rfl

@[simp] theorem isGroup_withRelation (r : String) (i : Item) :
    (i.withRelation r).isGroup = i.isGroup := by
  cases i <;> rfl

/-- The member of an object for a text that may be absent. -/
def textMember (key : String) (value : Option String) : List (String × Json) :=
  value.toList.map fun text => (key, .string text)

mutual

/-- An item as a document: the kind first, then the parts that are present. -/
def toJson : Item → Json
  | leaf field operator value relation =>
    .object (("kind", .string "leaf") ::
      (textMember "field" field ++ textMember "operator" operator ++
        value.toList.map (fun v => ("value", v)) ++ textMember "relation" relation))
  | group relation items =>
    .object (("kind", .string "group") ::
      (textMember "relation" relation ++ [("items", .array (listToJson items))]))

/-- Items as documents. -/
def listToJson : List Item → List Json
  | [] => []
  | item :: rest => toJson item :: listToJson rest

end

/-- A filter as a JSON value. -/
def encode (items : List Item) : Json := (Json.array (listToJson items)).normalize

end Item

end FilterQuery
