import FilterQuery.Identifier

/-!
# Table layout

A filter names logical fields. A schema says where they live: a field listed among the columns of
the entity table is that column; any other is stored in the attribute table, one row per field and
entity, with the field's name in the tag column and its value in the value column.
-/

namespace FilterQuery

/-- The entity table. -/
structure EntityTable where
  table : String
  /-- The column that the attribute table refers to. -/
  key : String
  /-- The fields that are columns of the table. -/
  columns : List String
deriving DecidableEq

/-- The attribute table. -/
structure AttributeTable where
  table : String
  /-- The column that refers to the entity's key. -/
  entityKey : String
  /-- The column that holds a field's name. -/
  tagColumn : String
  /-- The column that holds a field's value. -/
  valueColumn : String
deriving DecidableEq

/-- A table layout. -/
structure Schema where
  entity : EntityTable
  attributes : AttributeTable
deriving DecidableEq

namespace EntityTable

/-- The stock entity table. -/
def default : EntityTable where
  table := "entries"
  key := "id"
  columns := ["id", "title", "url_title", "route", "meta_title", "meta_keywords",
    "meta_description", "entry_status_id", "author_id", "created_at", "updated_at"]

/-- The field is a column of the table. -/
def hasColumn (e : EntityTable) (field : String) : Bool := e.columns.contains field

/-- The qualified column of a field. -/
def column (e : EntityTable) (field : String) : String := e.table ++ "." ++ field

@[simp] theorem hasColumn_iff {e : EntityTable} {field : String} :
    e.hasColumn field = true ↔ field ∈ e.columns := by
  simp [hasColumn]

end EntityTable

namespace AttributeTable

/-- The stock attribute table. -/
def default : AttributeTable where
  table := "entry_data"
  entityKey := "entry_id"
  tagColumn := "content_type_field_short_tag"
  valueColumn := "data"

/-- The qualified column that holds a field's name. -/
def tag (a : AttributeTable) : String := a.table ++ "." ++ a.tagColumn

/-- The qualified column that holds a field's value. -/
def value (a : AttributeTable) : String := a.table ++ "." ++ a.valueColumn

end AttributeTable

namespace Schema

/-- The stock layout. -/
def default : Schema := ⟨.default, .default⟩

instance : Inhabited Schema := ⟨default⟩

/-- The condition that ties a row of the attribute table to its entity. -/
def correlation (s : Schema) : String :=
  s.attributes.table ++ "." ++ s.attributes.entityKey ++ " = " ++ s.entity.table ++ "." ++
    s.entity.key

/-- Checks that every qualified column is an identifier, that there are entity columns, and that the
two tables differ. The first problem is reported. -/
def validate (s : Schema) : Except Error Unit := do
  discard (Identifier.qualified s.entity.table s.entity.key)
  if s.entity.columns.isEmpty then throw (.validation .noColumns)
  s.entity.columns.forM fun column => discard (Identifier.qualified s.entity.table column)
  discard (Identifier.qualified s.attributes.table s.attributes.entityKey)
  discard (Identifier.qualified s.attributes.table s.attributes.tagColumn)
  discard (Identifier.qualified s.attributes.table s.attributes.valueColumn)
  if s.attributes.table = s.entity.table then throw (.validation .sharedTable)

/-- A schema is valid when validation finds no problem. -/
def IsValid (s : Schema) : Prop := s.validate = .ok ()

end Schema

end FilterQuery
