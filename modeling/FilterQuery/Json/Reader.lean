import FilterQuery.Json.Token

/-!
# Reading JSON texts

The tokens of a text are folded over a stack of the brackets that are still open. At most 127
brackets may be open at a time. Main definition: `Json.read?`, the document that a text spells.
-/

namespace FilterQuery.Json

namespace Reader

/-- An open bracket with the parts read so far, the last one first. A member waits for its value. -/
inductive Frame where
  | array (elements : List Json)
  | object (members : List (String × Json)) (key : String)

/-- What may come next: a value, the first part of an array or object or its closing bracket, a
member's key, the colon behind it, a comma or closing bracket, or nothing at all. -/
inductive Expected where
  | value
  | firstElement
  | firstKey (members : List (String × Json))
  | key (members : List (String × Json))
  | colon
  | separator
  | nothing (document : Json)

/-- The open brackets, innermost first, and what may come next. -/
structure State where
  stack : List Frame
  expected : Expected

/-- The most brackets that may be open at a time. -/
def maxDepth : Nat := 127

/-- Takes a finished value. -/
def State.complete (stack : List Frame) (value : Json) : State :=
  match stack with
  | [] => ⟨[], .nothing value⟩
  | .array elements :: below => ⟨.array (value :: elements) :: below, .separator⟩
  | .object members key :: below => ⟨.object ((key, value) :: members) key :: below, .separator⟩

/-- Takes the first token of a value. -/
def State.start? (stack : List Frame) : Token → Option State
  | .scalar value => some (complete stack value)
  | .string value => some (complete stack (.string value))
  | .openArray =>
    if stack.length < maxDepth then some ⟨.array [] :: stack, .firstElement⟩ else none
  | .openObject => if stack.length < maxDepth then some ⟨stack, .firstKey []⟩ else none
  | _ => none

/-- Takes one token. An object's bracket is on the stack only while one of its values is read. -/
def State.step? (state : State) (token : Token) : Option State :=
  match state.expected, state.stack, token with
  | .value, stack, token => start? stack token
  | .firstElement, .array elements :: below, .closeArray =>
    some (complete below (.array elements.reverse))
  | .firstElement, stack, token => start? stack token
  | .firstKey members, stack, .closeObject => some (complete stack (.object members.reverse))
  | .firstKey members, stack, .string key => some ⟨.object members key :: stack, .colon⟩
  | .key members, stack, .string key => some ⟨.object members key :: stack, .colon⟩
  | .colon, stack, .colon => some ⟨stack, .value⟩
  | .separator, .array elements :: below, .comma => some ⟨.array elements :: below, .value⟩
  | .separator, .array elements :: below, .closeArray =>
    some (complete below (.array elements.reverse))
  | .separator, .object members _ :: below, .comma => some ⟨below, .key members⟩
  | .separator, .object members _ :: below, .closeObject =>
    some (complete below (.object members.reverse))
  | _, _, _ => none

/-- The document spelled by tokens. -/
def document? (tokens : List Token) : Option Json := do
  let final ← tokens.foldlM State.step? ⟨[], .value⟩
  match final.expected with
  | .nothing document => some document
  | _ => none

end Reader

/-- The document that a text spells, if it is JSON and not nested too deeply. -/
def read? (s : String) : Option Json := do
  Reader.document? (← Token.ofText? s)

end FilterQuery.Json
