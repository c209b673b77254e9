import FilterQuery.Proofs.Condition.Subqueries
import FilterQuery.Proofs.Filter.Leaves

/-!
# Which columns end up in subqueries

Every leaf of a filter brings its own subqueries, and the compiled condition has no others. A leaf
on a field that is no column of the entity table has its two tests in one subquery on the attribute
table. A leaf on a column of the entity table has a subquery when the column is captured: tests are
told apart by the text of their column, and a schema is valid even if the qualified name of an
entity column starts with the name of the attribute table and a dot. `Clause.notEnclosed_iff` states
that this is the only way in which such a column gets into a subquery.
-/

namespace FilterQuery

open Condition

/-- The tests that stand for a test on a logical field, each on its column. -/
def Schema.leafTests (s : Schema) (field : String) (t : Test) : List (String × Test) :=
  if s.entity.hasColumn field then [(s.entity.column field, t)]
  else [(s.attributes.tag, .compare .equal (.string field)), (s.attributes.value, t)]

namespace Filter

/-- Some leaf tests the column. A constant tests none. -/
def Tests (s : Schema) (fs : List Filter) (column : String) : Prop :=
  ∃ field op value t, (field, op, value) ∈ leavesAll fs ∧ Test.ofOperator op value = .ok t ∧
    ∃ p ∈ s.leafTests field t, p.1 = column ∧ p.2.constant? = none

/-- The subqueries that a leaf brings, if its value fits. -/
def leafSubqueries (s : Schema) : String × Operator × Json → List (String × Condition)
  | (field, op, value) =>
    match Test.ofOperator op value with
    | .ok t => (s.leafCondition field t).subqueries
    | .error _ => []

variable {s : Schema}

/-- A chain has the subqueries of its leaves and no others. -/
theorem subqueries_of_chain {fs : List Filter} {ch : List (Connective × Condition)}
    (h : chain s fs = .ok ch) :
    (ch.flatMap fun p => p.2.subqueries) = (leavesAll fs).flatMap (leafSubqueries s) :=
  collects_subqueries.of_chain fs h

end Filter

/-- The subqueries that a leaf on a column of the entity table brings. -/
theorem Schema.subqueries_leafCondition_of_hasColumn {s : Schema} {field : String}
    (h : s.entity.hasColumn field = true) (t : Test) :
    (s.leafCondition field t).subqueries =
      if t.constant?.isNone && s.captures field then
        [(s.attributes.table, ofTest (s.entity.column field) t)]
      else [] := by
  have hcaptures : Clause.isColumnOf s.attributes.table (s.entity.column field) =
      s.captures field := rfl
  rw [leafCondition, if_pos h, correlate_ofTest, hcaptures]
  split
  · rw [wrap, subqueries, subqueries_ofTest]
  · exact subqueries_ofTest _ _

/-- The subquery that any other leaf brings. -/
theorem Schema.subqueries_leafCondition_of_not_hasColumn {s : Schema} {field : String}
    (h : s.entity.hasColumn field = false) (t : Test) :
    (s.leafCondition field t).subqueries =
      [(s.attributes.table,
        .all [.compare s.attributes.tag .equal (.string field), ofTest s.attributes.value t])] := by
  rw [leafCondition, h, if_neg Bool.false_ne_true, wrap, subqueries, subqueries, subqueriesAll,
    subqueriesAll, subqueriesAll, subqueries_ofTest]
  rfl

/-- A column stands in the only subquery of a condition when one of the tests there is on it. -/
theorem Condition.isEnclosed_iff_of_subqueries {c d : Condition} {table : String}
    {tests : List (String × Test)} (hc : c.subqueries = [(table, d)])
    (hd : d.tests = tests.map fun p => ofTest p.1 p.2) (column : String) :
    c.IsEnclosed column ↔ ∃ p ∈ tests, p.1 = column ∧ p.2.constant? = none := by
  have hcolumn : ∀ p : String × Test,
      (ofTest p.1 p.2).column? = some column ↔ p.1 = column ∧ p.2.constant? = none := by
    intro p
    rw [column?_ofTest]
    cases p.2.constant? with
    | none => simp
    | some b => simp
  rw [IsEnclosed, hc]
  simp only [List.mem_singleton, exists_eq_left, hd, List.mem_map]
  constructor
  · rintro ⟨_, ⟨p, hp, rfl⟩, htest⟩
    exact ⟨p, hp, (hcolumn p).mp htest⟩
  · rintro ⟨p, hp, htest⟩
    exact ⟨_, ⟨p, hp, rfl⟩, (hcolumn p).mpr htest⟩

/-- A leaf gets a column into a subquery when it tests the column and the column reads as one of the
attribute table. -/
theorem Schema.isEnclosed_leafCondition_iff (s : Schema) (field : String) (t : Test)
    (column : String) :
    (s.leafCondition field t).IsEnclosed column ↔
      Clause.isColumnOf s.attributes.table column = true ∧
        ∃ p ∈ s.leafTests field t, p.1 = column ∧ p.2.constant? = none := by
  cases hfield : s.entity.hasColumn field with
  | true =>
      have hsubqueries := subqueries_leafCondition_of_hasColumn hfield t
      rw [leafTests, if_pos hfield]
      cases hmoved : t.constant?.isNone && s.captures field with
      | true =>
          rw [if_pos hmoved] at hsubqueries
          have hcaptures := (Bool.and_eq_true_iff.mp hmoved).2
          have htests : (ofTest (s.entity.column field) t).tests =
              [(s.entity.column field, t)].map fun p => ofTest p.1 p.2 := tests_ofTest _ _
          rw [isEnclosed_iff_of_subqueries hsubqueries htests]
          constructor
          · rintro ⟨p, hp, rfl, hconstant⟩
            refine ⟨?_, p, hp, rfl, hconstant⟩
            rw [List.mem_singleton.mp hp]
            exact hcaptures
          · exact fun h => h.2
      | false =>
          rw [if_neg (Bool.eq_false_iff.mp hmoved)] at hsubqueries
          constructor
          · rintro ⟨p, hp, -⟩
            rw [hsubqueries] at hp
            cases hp
          · rintro ⟨hcaptures, p, hp, rfl, hconstant⟩
            cases List.mem_singleton.mp hp
            rw [hconstant, captures, hcaptures] at hmoved
            cases hmoved
  | false =>
      have htests : (Condition.all [.compare s.attributes.tag .equal (.string field),
          ofTest s.attributes.value t]).tests =
            (s.leafTests field t).map fun p => ofTest p.1 p.2 := by
        rw [leafTests, if_neg (Bool.eq_false_iff.mp hfield), tests, testsAll, testsAll, testsAll,
          tests_ofTest]
        rfl
      rw [isEnclosed_iff_of_subqueries (subqueries_leafCondition_of_not_hasColumn hfield t) htests]
      constructor
      · rintro ⟨p, hp, rfl, hconstant⟩
        refine ⟨?_, p, hp, rfl, hconstant⟩
        rw [leafTests, if_neg (Bool.eq_false_iff.mp hfield)] at hp
        have hcases : p = (s.attributes.tag, .compare .equal (.string field)) ∨
            p = (s.attributes.value, t) := by simpa using hp
        rcases hcases with rfl | rfl
        · exact isColumnOf_append _ _
        · exact isColumnOf_append _ _
      · exact fun h => h.2

/-- The tag and the value of a leaf on no column of the entity table are tested together, in one
subquery on the attribute table. -/
theorem Schema.together_leafCondition {s : Schema} {field : String}
    (h : s.entity.hasColumn field = false) (t : Test) :
    ∃ p ∈ (s.leafCondition field t).subqueries, p.1 = s.attributes.table ∧
      .compare s.attributes.tag .equal (.string field) ∈ p.2.tests ∧
        ofTest s.attributes.value t ∈ p.2.tests := by
  rw [subqueries_leafCondition_of_not_hasColumn h]
  refine ⟨_, List.mem_singleton_self _, rfl, ?_, ?_⟩
  · simp [tests, testsAll]
  · simp [tests, testsAll]

namespace Filter

variable {s : Schema} {fs : List Filter} {c : Condition}

/-- The subqueries of the compiled condition are those of the leaves. -/
theorem mem_subqueries_iff (hs : s.Checked)
    (hc : (Clause.group .and (clauses s.resolver fs)).compile s = .ok c)
    {p : String × Condition} :
    p ∈ c.subqueries ↔ ∃ field op value t, (field, op, value) ∈ leavesAll fs ∧
      Test.ofOperator op value = .ok t ∧ p ∈ (s.leafCondition field t).subqueries := by
  rw [Clause.compile_clauses hs] at hc
  obtain ⟨ch, hch, rfl⟩ := Outcome.map_eq_ok_iff.mp hc
  have hsubqueries : ((ofChain ch).getD (.all [])).subqueries =
      (leavesAll fs).flatMap (leafSubqueries s) := by
    rw [collects_subqueries.of_getD_ofChain]
    exact subqueries_of_chain hch
  rw [hsubqueries, List.mem_flatMap]
  constructor
  · rintro ⟨⟨field, op, value⟩, hleaf, hp⟩
    obtain ⟨t, ht⟩ := fits_of_chain fs hch _ hleaf
    have ht : Test.ofOperator op value = .ok t := ht
    rw [leafSubqueries, ht] at hp
    exact ⟨field, op, value, t, hleaf, ht, hp⟩
  · rintro ⟨field, op, value, t, hleaf, ht, hp⟩
    refine ⟨_, hleaf, ?_⟩
    rw [leafSubqueries, ht]
    exact hp

/-- A column stands in a subquery when a leaf tests it and it reads as one of the attribute
table. -/
theorem isEnclosed_iff (hs : s.Checked)
    (hc : (Clause.group .and (clauses s.resolver fs)).compile s = .ok c) (column : String) :
    c.IsEnclosed column ↔
      Clause.isColumnOf s.attributes.table column = true ∧ Tests s fs column := by
  constructor
  · rintro ⟨p, hp, htest⟩
    obtain ⟨field, op, value, t, hleaf, ht, hp⟩ := (mem_subqueries_iff hs hc).mp hp
    obtain ⟨hcolumn, hq⟩ := (s.isEnclosed_leafCondition_iff field t column).mp ⟨p, hp, htest⟩
    exact ⟨hcolumn, field, op, value, t, hleaf, ht, hq⟩
  · rintro ⟨hcolumn, field, op, value, t, hleaf, ht, hq⟩
    obtain ⟨p, hp, htest⟩ := (s.isEnclosed_leafCondition_iff field t column).mpr ⟨hcolumn, hq⟩
    exact ⟨p, (mem_subqueries_iff hs hc).mpr ⟨field, op, value, t, hleaf, ht, hp⟩, htest⟩

end Filter

/-- The columns of the entity table stay outside of all subqueries exactly when no leaf tests one
that is captured. Every leaf on another field has its two tests in one subquery. -/
theorem Clause.notEnclosed_iff {s : Schema} (h : s.IsValid) {items : List Item} {clause : Clause}
    {c : Condition} (hitems : Clause.ofItems s.resolver items = .ok clause)
    (hc : clause.compile s = .ok c) :
    ∃ fs, Item.filters items = .ok fs ∧
      ((∀ field ∈ s.entity.columns, ¬c.IsEnclosed (s.entity.column field)) ↔
        ∀ field ∈ s.entity.columns, s.captures field = true →
          ¬Filter.Tests s fs (s.entity.column field)) ∧
      ∀ field op value, (field, op, value) ∈ Filter.leavesAll fs →
        s.entity.hasColumn field = false →
        ∃ t, Test.ofOperator op value = .ok t ∧
          ∃ p ∈ c.subqueries, p.1 = s.attributes.table ∧
            .compare s.attributes.tag .equal (.string field) ∈ p.2.tests ∧
              ofTest s.attributes.value t ∈ p.2.tests := by
  obtain ⟨fs, hfs, rfl⟩ := ofItems_eq_ok_iff.mp hitems
  refine ⟨fs, hfs, ?_, ?_⟩
  · constructor
    · intro hfree field hfield hcaptures htests
      exact hfree field hfield
        ((Filter.isEnclosed_iff h.checked hc _).mpr ⟨hcaptures, htests⟩)
    · intro huntested field hfield henclosed
      obtain ⟨hcaptures, htests⟩ := (Filter.isEnclosed_iff h.checked hc _).mp henclosed
      exact huntested field hfield hcaptures htests
  · intro field op value hleaf hfield
    have hchain := hc
    rw [Clause.compile_clauses h.checked] at hchain
    obtain ⟨ch, hch, -⟩ := Outcome.map_eq_ok_iff.mp hchain
    obtain ⟨t, ht⟩ := Filter.fits_of_chain fs hch _ hleaf
    refine ⟨t, ht, ?_⟩
    obtain ⟨p, hp, htogether⟩ := Schema.together_leafCondition hfield t
    exact ⟨p, (Filter.mem_subqueries_iff h.checked hc).mpr
      ⟨field, op, value, t, hleaf, ht, hp⟩, htogether⟩

/-- On the stock schema, a title and a mood. -/
theorem Clause.notEnclosed_iff_default :
    Schema.default.IsValid ∧
      ∃ clause c, Clause.ofItems Schema.default.resolver
          [.test "title" (.string "A"), .test "mood" (.string "calm")] = .ok clause ∧
        clause.compile Schema.default = .ok c ∧
        ∀ field ∈ Schema.default.entity.columns,
          ¬c.IsEnclosed (Schema.default.entity.column field) := by
  have hplain := Schema.hasPlainTables_default
  have hitems : Clause.ofItems Schema.default.resolver
      [.test "title" (.string "A"), .test "mood" (.string "calm")] = .ok _ :=
    ofItems_eq_ok_iff.mpr ⟨_, rfl, rfl⟩
  have hc := (Clause.compile_clauses hplain.valid.checked
    [.leaf .and "title" .equal (.string "A"), .leaf .and "mood" .equal (.string "calm")]).trans rfl
  obtain ⟨fs, hfs, hiff, -⟩ := Clause.notEnclosed_iff hplain.valid hitems hc
  refine ⟨hplain.valid, _, _, hitems, hc, hiff.mpr ?_⟩
  intro field hfield hcaptures
  rw [hplain.captures_eq_false hfield] at hcaptures
  cases hcaptures

/-- Tables `public.entries` and `public`: the title of an entry reads as a column of `public`. -/
def Schema.capturing : Schema where
  entity := { EntityTable.default with table := "public.entries" }
  attributes := { AttributeTable.default with table := "public" }

/-- The schema is valid, and the test on the title of an entry moves into a subquery. -/
theorem Clause.title_isEnclosed :
    Schema.capturing.IsValid ∧
      ∃ clause, Clause.ofItems Schema.capturing.resolver [.test "title" (.string "A")] =
          .ok clause ∧
        clause.compile Schema.capturing = .ok (.existsRow "public"
          "public.entry_id = public.entries.id"
          (.compare "public.entries.title" .equal (.string "A"))) ∧
        "title" ∈ Schema.capturing.entity.columns ∧
        (Condition.existsRow "public" "public.entry_id = public.entries.id"
          (.compare "public.entries.title" .equal (.string "A"))).IsEnclosed
            (Schema.capturing.entity.column "title") := by
  have hvalid : Schema.capturing.IsValid := rfl
  refine ⟨hvalid, _, ofItems_eq_ok_iff.mpr ⟨_, rfl, rfl⟩, ?_, ?_, ?_⟩
  · exact (Clause.compile_clauses hvalid.checked
      [.leaf .and "title" .equal (.string "A")]).trans rfl
  · decide
  · exact ⟨_, List.mem_cons_self, _, List.mem_cons_self, rfl⟩

end FilterQuery
