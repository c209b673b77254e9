import FilterQuery.Proofs.Condition.Values
import FilterQuery.Proofs.Filter.Leaves

/-!
# The parameters of a filter

Compiling moves tests into subqueries and leaves out groups without content, and the SQL text leaves
out columns of empty lists. The values still come as they are written: leaf by leaf, and within a
leaf its name, if it is looked up in the tag column, before what its operator takes.
-/

namespace FilterQuery

open Condition

/-- What an operator takes from the value of its leaf. -/
def Operator.operands : Operator → Json → List Json
  | inList, value | notInList, value | between, value | notBetween, value =>
    value.elements?.getD []
  | isNull, _ | isNotNull, _ => []
  | _, value => [value]

/-- The parameters of a leaf: its name, unless the field is a column of the entity table, and then
what its operator takes. -/
def Schema.parameters (s : Schema) : String × Operator × Json → List Json
  | (field, op, value) =>
    (if field ∈ s.entity.columns then [] else [.string field]) ++ op.operands value

namespace Test

/-- The values of a test. -/
def values : Test → List Json
  | compare _ v => [v]
  | nullness _ => []
  | membership vs _ => vs
  | range lower upper _ => [lower, upper]

/-- A test has the values that its operator takes. -/
theorem values_of_ofOperator {op : Operator} {value : Json} {t : Test}
    (h : ofOperator op value = .ok t) : t.values = op.operands value := by
  cases ofOperator_eq_ok_iff.mp h with
  | @comparison op value hop =>
      cases op with
      | inList | notInList | between | notBetween | isNull | isNotNull => cases hop
      | _ => rfl
  | _ => rfl

end Test

/-- Constants have no values, like the empty lists that they come from. -/
@[simp] theorem Condition.values_ofTest (column : String) (t : Test) :
    (ofTest column t).values = t.values := by
  cases t with
  | membership vs negated => cases vs <;> cases negated <;> rfl
  | compare op v => rfl
  | nullness isNull => rfl
  | range lower upper negated => rfl

/-- A leaf has the values of its test, behind its name if that is looked up. -/
theorem Schema.values_leafCondition (s : Schema) (field : String) (t : Test) :
    (s.leafCondition field t).values =
      (if field ∈ s.entity.columns then [] else [.string field]) ++ t.values := by
  rw [leafCondition]
  split
  · next hfield =>
    rw [if_pos (EntityTable.hasColumn_iff.mp hfield), List.nil_append, correlate_ofTest]
    -- A captured column brings a subquery, which has no value of its own.
    split
    · rw [wrap, Condition.values, Condition.values_ofTest]
    · exact Condition.values_ofTest _ t
  · next hfield =>
    rw [if_neg (fun hmem => hfield (EntityTable.hasColumn_iff.mpr hmem)), wrap, Condition.values,
      Condition.values, valuesAll, valuesAll, valuesAll, Condition.values_ofTest, List.append_nil]
    rfl

theorem Schema.leafPart_values (s : Schema) {l : String × Operator × Json}
    (h : ∃ t, Test.ofOperator l.2.1 l.2.2 = .ok t) :
    Collects.leafPart s Condition.values l = s.parameters l := by
  obtain ⟨t, ht⟩ := h
  rw [Collects.leafPart, ht, parameters, ← Test.values_of_ofOperator ht]
  exact s.values_leafCondition l.1 t

/-- The parameters of a compiled filter are those of its leaves, in the order of the document. -/
theorem Clause.values_toSql {s : Schema} (h : s.IsValid) {items : List Item} {clause : Clause}
    {c : Condition} (hitems : Clause.ofItems s.resolver items = .ok clause)
    (hc : clause.compile s = .ok c) :
    ∃ fs, Item.filters items = .ok fs ∧
      c.toSql.values = (Filter.leavesAll fs).flatMap s.parameters := by
  obtain ⟨fs, hfs, rfl⟩ := ofItems_eq_ok_iff.mp hitems
  refine ⟨fs, hfs, ?_⟩
  rw [Clause.compile_clauses h.checked] at hc
  obtain ⟨ch, hch, rfl⟩ := Outcome.map_eq_ok_iff.mp hc
  calc
    ((ofChain ch).getD (.all [])).toSql.values
        = ((ofChain ch).getD (.all [])).values := values_template _
    _ = ch.flatMap fun p => p.2.values := collects_values.of_getD_ofChain ch
    _ = (Filter.leavesAll fs).flatMap (Collects.leafPart s Condition.values) :=
          collects_values.of_chain fs hch
    _ = (Filter.leavesAll fs).flatMap s.parameters := by
          rw [List.flatMap_def, List.flatMap_def]
          refine congrArg List.flatten (List.map_congr_left ?_)
          intro l hl
          exact s.leafPart_values (Filter.fits_of_chain fs hch l hl)

/-- A range on a column, a list and an empty list on attributes, and a null check in a group. -/
def Item.calmAndDated : List Item :=
  [(Item.test "created_at" (.array [.string "2024-01-01", .string "2024-12-31"])).withOperator
      "between",
    .bracket
      [(Item.test "mood" (.array [.string "calm", .string "glad"])).withOperator "in",
        .leaf (some "title") (some "is not null") none (some "or")],
    (Item.test "size" (.array [])).withOperator "not in"]

/-- The same, read. -/
def Filter.calmAndDated : List Filter :=
  [.leaf .and "created_at" .between (.array [.string "2024-01-01", .string "2024-12-31"]),
    .group .and
      [.leaf .and "mood" .inList (.array [.string "calm", .string "glad"]),
        .leaf .or "title" .isNotNull .null],
    .leaf .and "size" .notInList (.array [])]

theorem Item.filters_calmAndDated :
    Item.filters Item.calmAndDated = .ok Filter.calmAndDated := rfl

/-- The name of the attribute with the empty list stays, last of all. -/
theorem Clause.values_toSql_calmAndDated :
    Schema.default.IsValid ∧
      ∃ clause c, Clause.ofItems Schema.default.resolver Item.calmAndDated = .ok clause ∧
        clause.compile Schema.default = .ok c ∧
        c.toSql.values = [.string "2024-01-01", .string "2024-12-31", .string "mood",
          .string "calm", .string "glad", .string "size"] := by
  have hvalid : Schema.default.IsValid := rfl
  have hitems : Clause.ofItems Schema.default.resolver Item.calmAndDated = .ok _ :=
    ofItems_eq_ok_iff.mpr ⟨_, Item.filters_calmAndDated, rfl⟩
  have hc := (Clause.compile_clauses hvalid.checked Filter.calmAndDated).trans rfl
  obtain ⟨fs, hfs, hvalues⟩ := Clause.values_toSql hvalid hitems hc
  cases Item.filters_calmAndDated.symm.trans hfs
  exact ⟨hvalid, _, _, hitems, hc, hvalues.trans rfl⟩

end FilterQuery
