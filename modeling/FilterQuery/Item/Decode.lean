import FilterQuery.Error
import FilterQuery.Item
import FilterQuery.Json.Printer
import FilterQuery.Json.Reader

/-!
# Decoding filter items

An item is an object with a `kind`, or an array that starts with the kind and goes on with the other
parts in order. The kind is found before anything else is decoded; after that the parts are decoded
in the order of the document and the first problem is reported.

## Implementation notes

Inside a group a kind may also be a number, the index of the kind among `leaf` and `group`; at the
outermost level it may not.
-/

namespace FilterQuery

/-- What a document is, for an error message. -/
def Json.found : Json → Found
  | null => .null
  | boolean value => .boolean value
  | number (.integer value _) => .integer value
  | number (.double value) => .floating value.text
  | string value => .string value
  | array _ => .sequence
  | object _ => .mapping

namespace Item

/-- The two kinds of item. -/
inductive Kind where
  | leaf
  | group
deriving DecidableEq

/-- The names of the kinds, in order. -/
def Kind.names : List String := ["leaf", "group"]

/-- The names of the parts of a leaf, in order. -/
def leafKeys : List String := ["field", "operator", "value", "relation"]

/-- The names of the parts of a group, in order. -/
def groupKeys : List String := ["relation", "items"]

/-- Decodes a kind. Only an inner item may give it by its index. -/
def Kind.ofJson (inner : Bool) : Json → Except DecodeProblem Kind
  | .string "leaf" => .ok leaf
  | .string "group" => .ok group
  | .string name => .error (.unknownVariant name names)
  | .number (.integer index fits) =>
    if inner && 0 ≤ index then
      if index = 0 then .ok leaf
      else if index = 1 then .ok group
      else .error (.badIndex index 2)
    else .error (.unexpected (Json.number (.integer index fits)).found "variant identifier")
  | other => .error (.unexpected other.found "variant identifier")

/-- Decodes a text; `null` means that it is absent. -/
def textOfJson : Json → Except DecodeProblem (Option String)
  | .null => .ok none
  | .string value => .ok (some value)
  | other => .error (.unexpected other.found "a string")

/-- Decodes a value, its members sorted; `null` means that it is absent. -/
def valueOfJson (j : Json) : Option Json := if j.isNull then none else some j.normalize

/-- The kind among the members of an object: there is exactly one. -/
def kindOfMembers (inner : Bool) (members : List (String × Json)) : Except DecodeProblem Kind :=
  match members.filter (·.1 == "kind") with
  | [] => .error (.missingField "kind")
  | (_, value) :: again => do
    let kind ← Kind.ofJson inner value
    if again.isEmpty then return kind else throw (.duplicateField "kind")

/-- The parts of a leaf that have been met, each at most once. -/
structure LeafParts where
  field : Option (Option String) := none
  operator : Option (Option String) := none
  value : Option (Option Json) := none
  relation : Option (Option String) := none

/-- The leaf with the given parts. -/
def LeafParts.toItem (parts : LeafParts) : Item :=
  leaf (parts.field.getD none) (parts.operator.getD none) (parts.value.getD none)
    (parts.relation.getD none)

/-- Decodes one member of a leaf. -/
def LeafParts.take (parts : LeafParts) (key : String) (value : Json) :
    Except DecodeProblem LeafParts :=
  match key with
  | "field" =>
    if parts.field.isSome then .error (.duplicateField key)
    else return { parts with field := some (← textOfJson value) }
  | "operator" =>
    if parts.operator.isSome then .error (.duplicateField key)
    else return { parts with operator := some (← textOfJson value) }
  | "value" =>
    if parts.value.isSome then .error (.duplicateField key)
    else return { parts with value := some (valueOfJson value) }
  | "relation" =>
    if parts.relation.isSome then .error (.duplicateField key)
    else return { parts with relation := some (← textOfJson value) }
  | _ => .error (.unknownField key leafKeys)

/-- Decodes the members of a leaf, passing over its kind. -/
def leafOfMembers (parts : LeafParts) : List (String × Json) → Except DecodeProblem Item
  | [] => .ok parts.toItem
  | (key, value) :: rest =>
    if key = "kind" then leafOfMembers parts rest
    else do leafOfMembers (← parts.take key value) rest

/-- Decodes the elements of a leaf in array form, its kind apart. -/
def leafOfElements (elements : List Json) : Except DecodeProblem Item := do
  let field ← (elements[0]?.elim (.ok none) textOfJson)
  let operator ← (elements[1]?.elim (.ok none) textOfJson)
  let value := elements[2]?.bind valueOfJson
  let relation ← (elements[3]?.elim (.ok none) textOfJson)
  if 4 < elements.length then throw (.surplusElements elements.length 4)
  return leaf field operator value relation

/-- The parts of a group that have been met, each at most once. -/
structure GroupParts where
  relation : Option (Option String) := none
  items : Option (List Item) := none

/-- The group with the given parts. -/
def GroupParts.toItem (parts : GroupParts) : Item :=
  group (parts.relation.getD none) (parts.items.getD [])

mutual

/-- Decodes an item. -/
def ofJson (inner : Bool) : Json → Except DecodeProblem Item
  | .object members => do
    match ← kindOfMembers inner members with
    | .leaf => leafOfMembers {} members
    | .group => groupOfMembers {} members
  | .array [] => .error (.missingField "kind")
  | .array (kind :: elements) => do
    match ← Kind.ofJson inner kind with
    | .leaf => leafOfElements elements
    | .group => groupOfElements elements
  | other => .error (.unexpected other.found "internally tagged enum FilterItem")

/-- Decodes the members of a group, passing over its kind. -/
def groupOfMembers (parts : GroupParts) : List (String × Json) → Except DecodeProblem Item
  | [] => .ok parts.toItem
  | (key, value) :: rest =>
    match key with
    | "kind" => groupOfMembers parts rest
    | "relation" =>
      if parts.relation.isSome then .error (.duplicateField key)
      else do groupOfMembers { parts with relation := some (← textOfJson value) } rest
    | "items" =>
      if parts.items.isSome then .error (.duplicateField key)
      else do groupOfMembers { parts with items := some (← itemsOfJson true value) } rest
    | _ => .error (.unknownField key groupKeys)

/-- Decodes the elements of a group in array form, its kind apart. -/
def groupOfElements : List Json → Except DecodeProblem Item
  | [] => .ok (group none [])
  | [relation] => return group (← textOfJson relation) []
  | relation :: items :: surplus => do
    let r ← textOfJson relation
    let is ← itemsOfJson true items
    if !surplus.isEmpty then throw (.surplusElements (surplus.length + 2) 2)
    return group r is

/-- Decodes an array of items. -/
def itemsOfJson (inner : Bool) : Json → Except DecodeProblem (List Item)
  | .array elements => listOfJson inner elements
  | other => .error (.unexpected other.found "a sequence")

/-- Decodes items one after the other. -/
def listOfJson (inner : Bool) : List Json → Except DecodeProblem (List Item)
  | [] => .ok []
  | j :: rest => return (← ofJson inner j) :: (← listOfJson inner rest)

end

/-- Decodes a filter from a JSON value. -/
def decode (value : Json) : Except Error (List Item) :=
  (itemsOfJson false value).mapError .decoding

/-- Decodes a filter from a JSON text. A text that is no JSON is reported as such, whatever else is
wrong with it. -/
def parse (text : String) : Except Error (List Item) :=
  match Json.read? text with
  | some document => decode document
  | none => .error (.decoding .notJson)

end Item

end FilterQuery
