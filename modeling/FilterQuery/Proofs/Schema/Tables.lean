import FilterQuery.Proofs.Identifier.Spelling
import FilterQuery.Proofs.Schema.Columns

/-!
# The two tables of a valid schema

A subquery on the attribute table refers to the entity outside by the name of its table. If both
tables have one name, the reference is read as one to the subquery's own row. Validation compares
the texts of the tables, so their parts differ, but two texts may spell one name.
`Schema.tableNames_ne_iff` states that the names differ exactly if validation still accepts the
schema when both tables are brought to their canonical spelling.
-/

namespace FilterQuery.Schema

open Identifier

/-- The schema with other texts for its tables. -/
def withTables (s : Schema) (entity attributes : String) : Schema :=
  { entity := { s.entity with table := entity }
    attributes := { s.attributes with table := attributes } }

/-- With tables that are identifiers, a checked schema stays valid as long as the texts differ. -/
theorem Checked.isValid_withTables_iff {s : Schema} (h : s.Checked) {entity attributes : String}
    (hentity : IsText entity) (hattributes : IsText attributes) :
    (s.withTables entity attributes).IsValid ↔ entity ≠ attributes := by
  rw [isValid_iff_checked]
  constructor
  · intro hchecked
    exact hchecked.tables_ne.symm
  · intro hne
    exact { h with
      entityTable := hentity
      attributeTable := hattributes
      tables_ne := hne.symm }

/-- The tables of a valid schema are read as different parts. They have different names exactly if
the schema is also valid with both tables in canonical spelling; this is so if they are written in
canonical spelling already. -/
theorem tableNames_ne_iff {s : Schema} (h : s.IsValid) :
    ∃ e a, parse s.entity.table = .ok e ∧ parse s.attributes.table = .ok a ∧ e ≠ a ∧
      (e.names ≠ a.names ↔ (s.withTables e.canonical.sql a.canonical.sql).IsValid) ∧
      (e.canonical = e → a.canonical = a → e.names ≠ a.names) := by
  have hchecked := h.checked
  obtain ⟨e, he⟩ := hchecked.entityTable
  obtain ⟨a, ha⟩ := hchecked.attributeTable
  obtain ⟨hesql, hewell⟩ := sql_of_parse he
  obtain ⟨hasql, hawell⟩ := sql_of_parse ha
  have hne : e ≠ a := by
    intro heq
    apply hchecked.tables_ne
    rw [← hesql, ← hasql, heq]
  refine ⟨e, a, he, ha, hne, ?_, ?_⟩
  · rw [hchecked.isValid_withTables_iff ⟨_, parse_canonical hewell⟩ ⟨_, parse_canonical hawell⟩,
      ne_eq, ne_eq, sql_canonical_eq_iff hewell hawell]
  · intro hecanonical hacanonical hnames
    rw [← canonical_eq_iff, hecanonical, hacanonical] at hnames
    exact hne hnames

/-- The stock tables have different names. -/
theorem tableNames_ne_default :
    default.IsValid ∧ parse default.entity.table = .ok ⟨[.bare "entries"]⟩ ∧
      parse default.attributes.table = .ok ⟨[.bare "entry_data"]⟩ ∧
      names ⟨[.bare "entries"]⟩ ≠ names ⟨[.bare "entry_data"]⟩ := by
  have hvalid := hasPlainTables_default.valid
  have hentity : parse default.entity.table = .ok ⟨[.bare "entries"]⟩ := rfl
  have hattributes : parse default.attributes.table = .ok ⟨[.bare "entry_data"]⟩ := rfl
  obtain ⟨e, a, he, ha, -, -, hcanonical⟩ := tableNames_ne_iff hvalid
  cases he.symm.trans hentity
  cases ha.symm.trans hattributes
  exact ⟨hvalid, hentity, hattributes, hcanonical (by decide) (by decide)⟩

/-- The attribute table is the entity table in capital letters. -/
def inCapitals : Schema := default.withTables "entries" "ENTRIES"

/-- The schema is valid, and both tables have one name. The condition that should tie an attribute
row to its entity then compares two columns of the attribute row. -/
theorem tableNames_inCapitals :
    inCapitals.IsValid ∧ parse inCapitals.entity.table = .ok ⟨[.bare "entries"]⟩ ∧
      parse inCapitals.attributes.table = .ok ⟨[.bare "ENTRIES"]⟩ ∧
      names ⟨[.bare "entries"]⟩ = names ⟨[.bare "ENTRIES"]⟩ ∧
      inCapitals.correlation = "ENTRIES.entry_id = entries.id" := by
  have hentity : parse inCapitals.entity.table = .ok ⟨[.bare "entries"]⟩ := rfl
  have hattributes : parse inCapitals.attributes.table = .ok ⟨[.bare "ENTRIES"]⟩ := rfl
  have hchecked := hasPlainTables_default.valid.checked
  have hvalid : inCapitals.IsValid :=
    (hchecked.isValid_withTables_iff ⟨_, hentity⟩ ⟨_, hattributes⟩).mpr (by decide)
  exact ⟨hvalid, hentity, hattributes, by decide, rfl⟩

end FilterQuery.Schema
