import FilterQuery.Schema
import FilterQuery.Schema.Document
import FilterQuery.Toml.Reader

/-!
# Decoding schemas

Parts that a document leaves out have their stock values. A TOML text is decoded and validated, a
JSON value is decoded only.
-/

namespace FilterQuery

open Document (Surplus)

namespace EntityTable

/-- Decodes an entity table. -/
def decode (surplus : Surplus) : Document → Except DecodeProblem EntityTable :=
  Document.decodeRecord surplus "EntitySchema"
    [("table", fun e d => return { e with table := ← d.decodeText }),
      ("key", fun e d => return { e with key := ← d.decodeText }),
      ("columns", fun e d => return { e with columns := ← d.decodeTexts })] default

end EntityTable

namespace AttributeTable

/-- Decodes an attribute table. -/
def decode (surplus : Surplus) : Document → Except DecodeProblem AttributeTable :=
  Document.decodeRecord surplus "AttributeSchema"
    [("table", fun a d => return { a with table := ← d.decodeText }),
      ("entity_key", fun a d => return { a with entityKey := ← d.decodeText }),
      ("tag_column", fun a d => return { a with tagColumn := ← d.decodeText }),
      ("value_column", fun a d => return { a with valueColumn := ← d.decodeText })] default

end AttributeTable

namespace Schema

/-- Decodes a schema. -/
def decode (surplus : Surplus) : Document → Except DecodeProblem Schema :=
  Document.decodeRecord surplus "FilterConfig"
    [("entity", fun s d => return { s with entity := ← EntityTable.decode surplus d }),
      ("attributes", fun s d => return { s with attributes := ← AttributeTable.decode surplus d })]
    default

/-- Decodes a schema from a JSON value, without validating it. -/
def ofJson (value : Json) : Except Error Schema :=
  (decode .refused (.ofJson value)).mapError .decoding

/-- Decodes a schema from the text of a TOML document. -/
def decodeToml (text : String) : Except DecodeProblem Schema :=
  match Toml.read? text with
  | some entries => decode .ignored (.ofToml (.table .header entries))
  | none => .error .notToml

/-- Decodes and validates a schema from the text of a TOML document. -/
def parse (text : String) : Except Error Schema := do
  let s ← (decodeToml text).mapError Error.decoding
  s.validate
  return s

theorem isValid_of_parse {text : String} {s : Schema} (h : parse text = .ok s) : s.IsValid := by
  unfold parse at h
  cases hd : decodeToml text with
  | error e =>
    rw [hd] at h
    cases h
  | ok t =>
    cases hv : t.validate with
    | error e =>
      rw [hd] at h
      have h' : (t.validate >>= fun _ => (.ok t : Except Error Schema)) = .ok s := h
      rw [hv] at h'
      cases h'
    | ok u =>
      rw [hd] at h
      have h' : (t.validate >>= fun _ => (.ok t : Except Error Schema)) = .ok s := h
      rw [hv] at h'
      obtain rfl : t = s := Except.ok.inj h'
      exact hv

end Schema

end FilterQuery
