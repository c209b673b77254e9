import FilterQuery.Item.Decode
import FilterQuery.Toml.Basic

/-!
# Configuration documents

JSON values and TOML tables read alike when a schema is decoded: as texts, sequences and mappings.
Everything else is kept only as what an error message says of it. The entries of a mapping are in
the order of their keys.
-/

namespace FilterQuery

/-- A document as the decoder of a schema sees it. -/
inductive Document where
  | text (value : String)
  | sequence (elements : List Document)
  | mapping (entries : List (String × Document))
  | other (found : Found)

namespace Document

/-- The problem of a document that is not what is expected. -/
def unexpected (expected : String) : Document → DecodeProblem
  | text value => .unexpected (.string value) expected
  | sequence _ => .unexpected .sequence expected
  | mapping _ => .unexpected .mapping expected
  | other found => .unexpected found expected

mutual

/-- The document of a JSON value. -/
def ofJson : Json → Document
  | .string value => text value
  | .array elements => sequence (ofElements elements)
  | .object members => mapping (ofMembers members)
  | j => other j.found

/-- The documents of elements. -/
def ofElements : List Json → List Document
  | [] => []
  | j :: rest => ofJson j :: ofElements rest

/-- The documents of members. -/
def ofMembers : List (String × Json) → List (String × Document)
  | [] => []
  | (key, value) :: rest => (key, ofJson value) :: ofMembers rest

end

/-- The document of a date or time: a mapping with a key of its own. -/
def datetime : Document := mapping [("$__toml_private_datetime", other .null)]

/-- Entries in the order of their keys. -/
def sortEntries (entries : List (String × Document)) : List (String × Document) :=
  entries.mergeSort fun a b => a.1 ≤ b.1

mutual

/-- The document of a TOML value. -/
def ofToml : Toml → Document
  | .string value => text value
  | .boolean value => other (.boolean value)
  | .integer value => other (.integer value)
  | .float value => other (.floating value.positionalText)
  | .datetime => datetime
  | .array elements => sequence (ofValues elements)
  | .table _ entries => mapping (sortEntries (ofEntries entries))
  | .tables latest earlier =>
    sequence ((ofValues earlier).reverse ++ [mapping (sortEntries (ofEntries latest))])

/-- The documents of TOML values. -/
def ofValues : List Toml → List Document
  | [] => []
  | t :: rest => ofToml t :: ofValues rest

/-- The documents of TOML entries. -/
def ofEntries : List (String × Toml) → List (String × Document)
  | [] => []
  | (key, value) :: rest => (key, ofToml value) :: ofEntries rest

end

/-- Decodes a text. -/
def decodeText : Document → Except DecodeProblem String
  | text value => .ok value
  | d => .error (d.unexpected "a string")

/-- Decodes a list of texts. -/
def decodeTexts : Document → Except DecodeProblem (List String)
  | sequence elements => elements.mapM decodeText
  | d => .error (d.unexpected "a sequence")

/-- What a format does with the elements of a sequence for which a record has no part. -/
inductive Surplus where
  | refused
  | ignored
deriving DecidableEq

/-- Decodes a record with the given parts, starting from its defaults: from a mapping of some of the
parts, or from a sequence of the first of them. The first problem in the order of the document is
reported. -/
def decodeRecord {α : Type} (surplus : Surplus) (name : String)
    (parts : List (String × (α → Document → Except DecodeProblem α))) (start : α) :
    Document → Except DecodeProblem α
  | mapping entries =>
    entries.foldlM (fun record (key, value) =>
      match parts.find? (·.1 == key) with
      | some (_, set) => set record value
      | none => .error (.unknownField key (parts.map (·.1)))) start
  | sequence elements => do
    let record ← (parts.zip elements).foldlM (fun record (part, value) => part.2 record value) start
    if surplus = .refused ∧ parts.length < elements.length then
      throw (.surplusArray elements.length)
    return record
  | d => .error (d.unexpected ("struct " ++ name))

end Document

end FilterQuery
