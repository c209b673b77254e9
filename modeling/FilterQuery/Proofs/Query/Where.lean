import FilterQuery.Proofs.Query.Selection
import FilterQuery.Proofs.Scope.NormalForm

/-!
# When a query has a WHERE clause

A condition in normal form has text, so a query loses its WHERE clause only if it has no condition
to begin with: when no clause has a test anywhere. Then it selects every row of its table.
-/

namespace FilterQuery

open Condition

namespace Clause

/-- A node without children that has a column stands somewhere in the tree. -/
inductive HasTest : Clause → Prop
  | here {c : Clause} {column : String} (childless : c.children = [])
      (tested : c.column = some column) : HasTest c
  | child {c d : Clause} (mem : d ∈ c.children) (inside : HasTest d) : HasTest c

theorem hasTest_iff_of_childless {c : Clause} (h : c.children = []) :
    c.HasTest ↔ ∃ column, c.column = some column := by
  constructor
  · rintro (⟨-, tested⟩ | ⟨mem, -⟩)
    · exact ⟨_, tested⟩
    · rw [h] at mem
      cases mem
  · rintro ⟨column, tested⟩
    exact .here h tested

theorem hasTest_iff_of_children {c : Clause} (h : c.children ≠ []) :
    c.HasTest ↔ ∃ d ∈ c.children, d.HasTest := by
  constructor
  · rintro (⟨childless, -⟩ | ⟨mem, inside⟩)
    · exact absurd childless h
    · exact ⟨_, mem, inside⟩
  · rintro ⟨d, mem, inside⟩
    exact .child mem inside

mutual

/-- Building a clause asks for a predicate when the clause has a test. -/
theorem exists_tests_build_iff : (c : Clause) →
    ((∃ call ∈ c.build, ∃ column, call.Tests column) ↔ c.HasTest)
  | ⟨column, op, value, r, []⟩ => by
      rw [hasTest_iff_of_childless rfl]
      cases column with
      | none => simp [build]
      | some column => simpa [build] using ⟨column, .predicate⟩
  | ⟨column, op, value, r, child :: rest⟩ => by
      have hbuild : build ⟨column, op, value, r, child :: rest⟩ =
          [.nested r (buildAll (child :: rest))] := rfl
      rw [hasTest_iff_of_children (List.cons_ne_nil child rest), hbuild]
      simp only [List.mem_singleton, exists_eq_left, Call.exists_tests_nested_iff]
      exact exists_tests_buildAll_iff (child :: rest)

theorem exists_tests_buildAll_iff : (cs : List Clause) →
    ((∃ call ∈ buildAll cs, ∃ column, call.Tests column) ↔ ∃ c ∈ cs, c.HasTest)
  | [] => by simp [buildAll]
  | c :: rest => by
      have hc := exists_tests_build_iff c
      have hrest := exists_tests_buildAll_iff rest
      simp only [buildAll, List.mem_append, or_and_right, exists_or, hc, hrest, List.mem_cons,
        exists_eq_left]

end

end Clause

namespace Query

variable {q : Query}

/-- The query builds, and its statement has neither a `WHERE` clause nor values. -/
def SelectsAll (q : Query) : Prop :=
  ∃ columns, q.columnList = .ok columns ∧
    q.build = .ok
      { text := "SELECT " ++ columns ++ " FROM " ++ q.schema.entity.table ++
          windowPart "LIMIT" q.limit ++ windowPart "OFFSET" q.offset
        values := [] }

/-- A query that builds has no `WHERE` clause when its condition is the empty conjunction. -/
theorem selectsAll_of_build (hbuild : ∃ st, q.build = .ok st)
    (hc : q.condition = .ok (.all [])) : q.SelectsAll := by
  obtain ⟨⟨columns, hcolumns⟩, hvalid, -⟩ := exists_build_iff.mp hbuild
  refine ⟨columns, hcolumns, ?_⟩
  rw [build_eq hvalid hcolumns, hc]
  change Except.ok (q.statement columns (.all [])) = _
  have htemplate : (Condition.all []).template = [] := rfl
  rw [statement, template, htemplate]
  simp [Sql.Template.text, Sql.Template.print, Sql.Template.values, Sql.Template.toStatement]

/-- A query that builds has a `WHERE` clause exactly when a clause has a test. -/
theorem exists_selectsWhere_iff (hbuild : ∃ st, q.build = .ok st) :
    ((∃ c, q.SelectsWhere c) ↔ ∃ f ∈ q.clauses, f.HasTest) ∧
      ((¬∃ f ∈ q.clauses, f.HasTest) → q.SelectsAll) := by
  obtain ⟨-, -, c, hc⟩ := exists_build_iff.mp hbuild
  have htests := Clause.exists_tests_buildAll_iff q.clauses
  refine ⟨⟨?_, ?_⟩, ?_⟩
  · rintro ⟨d, hd⟩
    cases hd.condition.symm.trans hc
    refine Classical.byContradiction fun hnone => ?_
    cases Scope.eq_all_nil_of_finish hc (mt htests.mp hnone)
    cases hd.nonempty
  · intro hsome
    have hnormal := Scope.isNormal_of_finish hc (htests.mpr hsome)
    exact ⟨c, selectsWhere_of_build hbuild hc hnormal.isEmpty_eq_false⟩
  · intro hnone
    cases Scope.eq_all_nil_of_finish hc (mt htests.mp hnone)
    exact selectsAll_of_build hbuild hc

end Query

/-- Whatever a scope receives, its condition is in normal form and nothing in it is empty, provided
that a predicate was among the calls; otherwise it is the empty conjunction. So a query that builds
has a `WHERE` clause exactly when one of its clauses has a test. -/
theorem isNormal_and_selectsWhere_iff :
    (∀ (s : Schema) (calls : List Call) (c : Condition),
      (Scope.receiveAll s {} calls).finish s = .ok c →
        ((∃ call ∈ calls, ∃ column, call.Tests column) →
          c.IsNormal ∧ ∀ d, Occurs d c → d.isEmpty = false) ∧
        ((¬∃ call ∈ calls, ∃ column, call.Tests column) → c = .all [])) ∧
      ∀ q : Query, (∃ st, q.build = .ok st) →
        ((∃ c, q.SelectsWhere c) ↔ ∃ f ∈ q.clauses, f.HasTest) ∧
        ((¬∃ f ∈ q.clauses, f.HasTest) → q.SelectsAll) := by
  constructor
  · intro s calls c hc
    constructor
    · intro hsome
      have hnormal := Scope.isNormal_of_finish hc hsome
      exact ⟨hnormal, fun d hd => hnormal.isEmpty_of_occurs hd⟩
    · intro hnone
      exact Scope.eq_all_nil_of_finish hc hnone
  · intro q hbuild
    exact Query.exists_selectsWhere_iff hbuild

/-- A group of nodes that stand for nothing. -/
def Clause.withoutTests : Clause := .group .or [{}, .group .and [], .group .and [{}]]

/-- A group of two tests on the attribute table around one on the title, behind a group of nodes that
stand for nothing. -/
def Clause.redAndTitled : Clause :=
  .group .and
    [withoutTests,
      .group .or
        [.test "entry_data.data" .like (.string "red%"),
          .test "entries.title" .equal (.string "A"),
          .test "entry_data.id" .equal (.string "7")]]

/-- The two attribute tests move into one subquery. -/
def Clause.redAndTitledCondition : Condition :=
  .all
    [.existsRow "entry_data" "entry_data.entry_id = entries.id"
        (.all [.compare "entry_data.data" .like (.string "red%"),
          .compare "entry_data.id" .equal (.string "7")]),
      .compare "entries.title" .equal (.string "A")]

theorem Query.condition_redAndTitled :
    ((filter {} Clause.withoutTests).filter Clause.redAndTitled).condition =
      .ok Clause.redAndTitledCondition := by
  have hdata : Identifier.IsText "entry_data.data" := ⟨_, rfl⟩
  have htitle : Identifier.IsText "entries.title" := ⟨_, rfl⟩
  have hid : Identifier.IsText "entry_data.id" := ⟨_, rfl⟩
  have hcalls : Clause.buildAll [Clause.withoutTests, Clause.redAndTitled] =
      [.nested .or [.nested .and []],
        .nested .and
          [.nested .or [.nested .and []],
            .nested .or
              [.predicate .and "entry_data.data" (.compare .like (.string "red%")),
                .predicate .and "entries.title" (.compare .equal (.string "A")),
                .predicate .and "entry_data.id" (.compare .equal (.string "7"))]]] := rfl
  rw [condition, Scope.finish_receiveAll]
  change (Call.elements _ (Clause.buildAll [Clause.withoutTests, Clause.redAndTitled])).map _ = _
  -- Evaluating the readings of the columns over and over again would be slow.
  simp only [hcalls, Call.elements, Call.element, Predicate.condition_of_isText hdata,
    Predicate.condition_of_isText htitle, Predicate.condition_of_isText hid]
  rfl

/-- Without tests there is no `WHERE` clause, and with them there is one, of a normal form. -/
theorem selectsWhere_redAndTitled :
    (Query.filter {} Clause.withoutTests).SelectsAll ∧
      Clause.redAndTitledCondition.IsNormal ∧
      ∃ c, ((Query.filter {} Clause.withoutTests).filter Clause.redAndTitled).SelectsWhere c := by
  have hvalid := Schema.hasPlainTables_default.valid
  have hnone : (Query.filter {} Clause.withoutTests).condition = .ok (.all []) := rfl
  have hsome := Query.condition_redAndTitled
  have hbuild : ∃ st, (Query.filter {} Clause.withoutTests).build = .ok st :=
    Query.exists_build_iff.mpr ⟨⟨_, rfl⟩, hvalid, _, hnone⟩
  have hbuild' :
      ∃ st, ((Query.filter {} Clause.withoutTests).filter Clause.redAndTitled).build = .ok st :=
    Query.exists_build_iff.mpr ⟨⟨_, rfl⟩, hvalid, _, hsome⟩
  have hempty : ¬∃ f ∈ [Clause.withoutTests], f.HasTest := by
    simp [Clause.withoutTests, Clause.group, Clause.hasTest_iff_of_childless,
      Clause.hasTest_iff_of_children]
  have htest : ∃ f ∈ [Clause.withoutTests, Clause.redAndTitled], f.HasTest := by
    simp [Clause.redAndTitled, Clause.group, Clause.test, Clause.hasTest_iff_of_childless,
      Clause.hasTest_iff_of_children]
  obtain ⟨hnormal, hwhere⟩ := isNormal_and_selectsWhere_iff
  refine ⟨(hwhere _ hbuild).2 hempty, ?_, (hwhere _ hbuild').1.mpr htest⟩
  exact ((hnormal _ _ _ hsome).1 ((Clause.exists_tests_buildAll_iff _).mpr htest)).1

end FilterQuery
