import FilterQuery.Clause
import FilterQuery.Schema
import FilterQuery.Proofs.Identifier

/-!
# Columns of a valid schema

Validation reads tables and columns one by one. The qualified columns that tests are made on are
then identifiers too. A column of the entity table is captured when its text also is the attribute
table's name, a dot and more; this happens exactly when the parts of the attribute table start the
parts of the column, so never with two tables of one part each.
-/

namespace FilterQuery.Schema

open Identifier

/-- What validation has checked. -/
structure Checked (s : Schema) : Prop where
  entityTable : IsText s.entity.table
  key : IsText s.entity.key
  columns : ∀ field ∈ s.entity.columns, IsText field
  columns_ne_nil : s.entity.columns ≠ []
  attributeTable : IsText s.attributes.table
  entityKey : IsText s.attributes.entityKey
  tagColumn : IsText s.attributes.tagColumn
  valueColumn : IsText s.attributes.valueColumn
  tables_ne : s.attributes.table ≠ s.entity.table

theorem discard_qualified_eq_ok_iff {t c : String} :
    (discard (qualified t c) : Except Error Unit) = .ok () ↔ IsText t ∧ IsText c := by
  rw [Outcome.discard_eq_ok_iff]
  constructor
  · rintro ⟨i, h⟩
    obtain ⟨it, ic, ht, hc, -⟩ := qualified_eq_ok_iff.mp h
    exact ⟨⟨it, ht⟩, ⟨ic, hc⟩⟩
  · rintro ⟨⟨it, ht⟩, ⟨ic, hc⟩⟩
    exact ⟨_, qualified_eq_ok_iff.mpr ⟨it, ic, ht, hc, rfl⟩⟩

theorem IsValid.checked {s : Schema} (h : s.IsValid) : s.Checked := by
  unfold IsValid validate at h
  obtain ⟨_, hkey, h⟩ := Outcome.bind_eq_ok_iff.mp h
  have hne : s.entity.columns.isEmpty = false := by
    cases hc : s.entity.columns.isEmpty with
    | false => rfl
    | true =>
        rw [hc] at h
        cases h
  simp only [hne, Bool.false_eq_true, if_false] at h
  obtain ⟨_, hcolumns, h⟩ := Outcome.bind_eq_ok_iff.mp h
  obtain ⟨_, hentityKey, h⟩ := Outcome.bind_eq_ok_iff.mp h
  obtain ⟨_, htag, h⟩ := Outcome.bind_eq_ok_iff.mp h
  obtain ⟨_, hvalue, h⟩ := Outcome.bind_eq_ok_iff.mp h
  have hdiffer : s.attributes.table ≠ s.entity.table := by
    intro heq
    rw [if_pos heq] at h
    cases h
  have hkey := discard_qualified_eq_ok_iff.mp hkey
  have hcolumns := Outcome.forM_eq_ok_iff.mp hcolumns
  have hentityKey := discard_qualified_eq_ok_iff.mp hentityKey
  exact
    { entityTable := hkey.1
      key := hkey.2
      columns := fun field hf => (discard_qualified_eq_ok_iff.mp (hcolumns field hf)).2
      columns_ne_nil := by simpa using hne
      attributeTable := hentityKey.1
      entityKey := hentityKey.2
      tagColumn := (discard_qualified_eq_ok_iff.mp htag).2
      valueColumn := (discard_qualified_eq_ok_iff.mp hvalue).2
      tables_ne := hdiffer }

theorem Checked.isValid {s : Schema} (h : s.Checked) : s.IsValid := by
  have hne : s.entity.columns.isEmpty = false := by simpa using h.columns_ne_nil
  have hkey := discard_qualified_eq_ok_iff.mpr ⟨h.entityTable, h.key⟩
  have hcolumns : (s.entity.columns.forM fun column =>
      discard (qualified s.entity.table column) : Except Error Unit) = .ok () :=
    Outcome.forM_eq_ok_iff.mpr fun field hf =>
      discard_qualified_eq_ok_iff.mpr ⟨h.entityTable, h.columns field hf⟩
  have hentityKey := discard_qualified_eq_ok_iff.mpr ⟨h.attributeTable, h.entityKey⟩
  have htag := discard_qualified_eq_ok_iff.mpr ⟨h.attributeTable, h.tagColumn⟩
  have hvalue := discard_qualified_eq_ok_iff.mpr ⟨h.attributeTable, h.valueColumn⟩
  rw [IsValid, validate, hkey, hne, hcolumns, hentityKey, htag, hvalue]
  exact if_neg h.tables_ne

/-- Validation accepts a schema exactly when it is as checked. -/
theorem isValid_iff_checked {s : Schema} : s.IsValid ↔ s.Checked :=
  ⟨IsValid.checked, Checked.isValid⟩

/-- A qualified column of a valid schema reads as an identifier. -/
theorem Checked.isText_column {s : Schema} (h : s.Checked) {field : String}
    (hf : field ∈ s.entity.columns) : IsText (s.entity.column field) :=
  h.entityTable.append (h.columns field hf)

theorem Checked.isText_tag {s : Schema} (h : s.Checked) : IsText s.attributes.tag :=
  h.attributeTable.append h.tagColumn

theorem Checked.isText_value {s : Schema} (h : s.Checked) : IsText s.attributes.value :=
  h.attributeTable.append h.valueColumn

theorem isColumnOf_append (table column : String) :
    Clause.isColumnOf table (table ++ "." ++ column) = true :=
  Clause.isColumnOf_iff.mpr ⟨column, rfl⟩

/-- A column of the entity table whose text also is a column of the attribute table. -/
def captures (s : Schema) (field : String) : Bool :=
  Clause.isColumnOf s.attributes.table (s.entity.column field)

/-- A column is captured when the attribute table's parts start the column's parts and are not all
of them. -/
theorem captures_iff {s : Schema} {field : String} {a e f : Identifier}
    (ha : parse s.attributes.table = .ok a) (he : parse s.entity.table = .ok e)
    (hf : parse field = .ok f) :
    s.captures field = true ↔ ∃ p rest, e.parts ++ f.parts = a.parts ++ p :: rest := by
  obtain ⟨hat, hwa⟩ := sql_of_parse ha
  obtain ⟨hcolumn, hwc⟩ := sql_of_parse (parse_append he hf)
  rw [← prefix_dot_iff hwa hwc, captures, EntityTable.column, ← hcolumn, ← hat,
    Clause.isColumnOf, List.isPrefixOf_iff_prefix]
  simp [sql]

/-- A valid schema whose two tables are identifiers of one part each. -/
structure HasPlainTables (s : Schema) : Prop where
  valid : s.IsValid
  entity : ∃ p, parse s.entity.table = .ok ⟨[p]⟩
  attributes : ∃ p, parse s.attributes.table = .ok ⟨[p]⟩

/-- No column is captured when both tables have one part. -/
theorem HasPlainTables.captures_eq_false {s : Schema} (h : s.HasPlainTables) {field : String}
    (hf : field ∈ s.entity.columns) : s.captures field = false := by
  obtain ⟨pe, he⟩ := h.entity
  obtain ⟨pa, ha⟩ := h.attributes
  obtain ⟨f, hf⟩ := h.valid.checked.columns field hf
  apply Bool.eq_false_iff.mpr
  intro hcap
  obtain ⟨p, rest, hparts⟩ := (captures_iff ha he hf).mp hcap
  have hpe : pe = pa := by simpa using (List.cons.inj hparts).1
  apply h.valid.checked.tables_ne
  rw [← (sql_of_parse ha).1, ← (sql_of_parse he).1, hpe]

/-- The stock schema has plain tables. -/
theorem hasPlainTables_default : Schema.default.HasPlainTables where
  valid := rfl
  entity := ⟨.bare "entries", rfl⟩
  attributes := ⟨.bare "entry_data", rfl⟩

end FilterQuery.Schema
