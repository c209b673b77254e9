/-!
# SQL types

The types that a placeholder may have. A type without a binding of its own is kept by its name.
-/

namespace FilterQuery.Binding

/-- The type of a placeholder. -/
inductive SqlType where
  | bool
  | int2
  | int4
  | int8
  | float4
  | float8
  | numeric
  | text
  | varchar
  | bpchar
  | name
  | unknown
  | json
  | jsonb
  | timestamp
  | timestamptz
  | date
  | unlisted (name : String)
deriving DecidableEq

namespace SqlType

/-- The types that values can be bound as, with their names. -/
def listed : List (String × SqlType) :=
  [("bool", bool), ("int2", int2), ("int4", int4), ("int8", int8), ("float4", float4),
    ("float8", float8), ("numeric", numeric), ("text", text), ("varchar", varchar),
    ("bpchar", bpchar), ("name", name), ("unknown", unknown), ("json", json), ("jsonb", jsonb),
    ("timestamp", timestamp), ("timestamptz", timestamptz), ("date", date)]

/-- The type with a name. -/
def ofName (name : String) : SqlType := (listed.lookup name).getD (unlisted name)

/-- Values can be bound as the type. -/
def isListed : SqlType → Bool
  | unlisted _ => false
  | _ => true

/-- The type is one of the label trees, whose texts are sent with a version. -/
def isLabelTree : SqlType → Bool
  | unlisted label => ["ltree", "lquery", "ltxtquery"].contains label
  | _ => false

theorem isListed_iff {t : SqlType} : t.isListed = true ↔ ∃ name, (name, t) ∈ listed := by
  cases t <;> simp [isListed, listed]

end SqlType

end FilterQuery.Binding
