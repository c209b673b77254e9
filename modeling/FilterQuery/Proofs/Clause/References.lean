import FilterQuery.Proofs.Filter.Basic
import FilterQuery.Proofs.Scope.FirstProblem

/-!
# References to a table

A tree may be asked whether it references a table, and building it asks for predicates on columns.
Both are described here by the nodes of the tree: the question is about the columns of all nodes,
while only nodes without children are built as predicates. A node with children may have a column
too, left from the time before it got them or set later. `Clause.references_iff_predicates` states
that the two agree unless the only columns of the table are such ones.
-/

namespace FilterQuery.Clause

open Call

/-- The node stands in the tree. -/
inductive Within (d : Clause) : Clause → Prop
  | here : Within d d
  | inside {c child : Clause} (mem : child ∈ c.children) (below : Within d child) : Within d c

/-- The column of the node is the table's name, a dot and anything. -/
def IsOn (table : String) (c : Clause) : Prop := ∃ rest, c.column = some (table ++ "." ++ rest)

variable {table : String}

theorem any_isColumnOf_iff {c : Clause} :
    c.column.any (isColumnOf table) = true ↔ c.IsOn table := by
  simp only [Option.any_eq_true, isColumnOf_iff, IsOn]
  constructor
  · rintro ⟨_, hcolumn, rest, rfl⟩
    exact ⟨rest, hcolumn⟩
  · rintro ⟨rest, hcolumn⟩
    exact ⟨_, hcolumn, rest, rfl⟩

/-- The nodes of a tree are its root and the nodes of the trees below. -/
theorem exists_within_iff {P : Clause → Prop} {c : Clause} :
    (∃ d, Within d c ∧ P d) ↔ P c ∨ ∃ child ∈ c.children, ∃ d, Within d child ∧ P d := by
  constructor
  · rintro ⟨d, _ | ⟨mem, below⟩, hP⟩
    · exact .inl hP
    · exact .inr ⟨_, mem, d, below, hP⟩
  · rintro (hP | ⟨child, mem, d, below, hP⟩)
    · exact ⟨c, .here, hP⟩
    · exact ⟨d, .inside mem below, hP⟩

mutual

/-- A tree references a table when some node has a column of it. -/
theorem references_iff : (c : Clause) →
    (references table c = true ↔ ∃ d : Clause, d.Within c ∧ d.IsOn table)
  | ⟨column, op, value, r, children⟩ => by
      rw [references, Bool.or_eq_true, anyReferences_iff children, exists_within_iff,
        ← any_isColumnOf_iff]

theorem anyReferences_iff : (cs : List Clause) →
    (anyReferences table cs = true ↔ ∃ c ∈ cs, ∃ d : Clause, d.Within c ∧ d.IsOn table)
  | [] => by simp [anyReferences]
  | c :: rest => by
      simp only [anyReferences, Bool.or_eq_true, references_iff c, anyReferences_iff rest,
        List.mem_cons, or_and_right, exists_or, exists_eq_left]

end

/-- The node is built as a predicate. -/
def BuildsPredicate (c : Clause) (column : String) (p : Predicate) : Prop :=
  c.children = [] ∧ c.column = some column ∧ p = .ofOperator c.operator c.value

mutual

/-- Building a tree asks for the predicates of its childless nodes and for no others. -/
theorem mem_predicates_build_iff {column : String} {p : Predicate} : (c : Clause) →
    ((column, p) ∈ predicatesAll c.build ↔ ∃ d : Clause, d.Within c ∧ d.BuildsPredicate column p)
  | ⟨own, op, value, r, []⟩ => by
      rw [exists_within_iff]
      cases own with
      | none => simp [build, predicatesAll, BuildsPredicate]
      | some name => simp [build, predicatesAll, predicates, BuildsPredicate, eq_comm]
  | ⟨own, op, value, r, child :: rest⟩ => by
      have hbuild : build ⟨own, op, value, r, child :: rest⟩ =
          [.nested r (buildAll (child :: rest))] := rfl
      have hroot : ¬BuildsPredicate ⟨own, op, value, r, child :: rest⟩ column p :=
        fun h => List.cons_ne_nil child rest h.1
      rw [exists_within_iff, or_iff_right hroot, hbuild, predicatesAll, predicatesAll,
        List.append_nil, predicates]
      exact mem_predicates_buildAll_iff (child :: rest)

theorem mem_predicates_buildAll_iff {column : String} {p : Predicate} : (cs : List Clause) →
    ((column, p) ∈ predicatesAll (buildAll cs) ↔
      ∃ c ∈ cs, ∃ d : Clause, d.Within c ∧ d.BuildsPredicate column p)
  | [] => by simp [buildAll, predicatesAll]
  | c :: rest => by
      simp only [buildAll, predicatesAll_append, List.mem_append, mem_predicates_build_iff c,
        mem_predicates_buildAll_iff rest, List.mem_cons, or_and_right, exists_or, exists_eq_left]

end

/-- Building asks for a predicate on a column of the table. -/
def AsksFor (table : String) (c : Clause) : Prop :=
  ∃ rest p, (table ++ "." ++ rest, p) ∈ predicatesAll c.build

theorem asksFor_iff {c : Clause} :
    c.AsksFor table ↔ ∃ d : Clause, d.Within c ∧ d.children = [] ∧ d.IsOn table := by
  simp only [AsksFor, mem_predicates_build_iff, BuildsPredicate]
  constructor
  · rintro ⟨rest, p, d, hd, hchildless, hcolumn, -⟩
    exact ⟨d, hd, hchildless, rest, hcolumn⟩
  · rintro ⟨d, hd, hchildless, rest, hcolumn⟩
    exact ⟨rest, _, d, hd, hchildless, hcolumn, rfl⟩

/-- No node with children has a column. -/
def HasPlainGroups (c : Clause) : Prop :=
  ∀ d : Clause, d.Within c → d.children ≠ [] → d.column = none

theorem hasPlainGroups_test (column : String) (op : Operator) (value : Json) :
    (test column op value).HasPlainGroups := by
  rintro d (_ | ⟨mem, -⟩) hchildren
  · exact absurd rfl hchildren
  · cases mem

theorem hasPlainGroups_group (r : Connective) {children : List Clause}
    (h : ∀ child ∈ children, child.HasPlainGroups) : (group r children).HasPlainGroups := by
  rintro d (_ | ⟨mem, below⟩) hchildren
  · rfl
  · exact h _ mem d below hchildren

section Items

variable (s : Schema)

theorem hasPlainGroups_of_mem_resolver {field : String} {op : Operator} {value : Json} :
    ∀ c ∈ s.resolver field op value, c.HasPlainGroups := by
  have htests : ∃ tests : List (String × Operator × Json),
      s.resolver field op value = tests.map fun t => test t.1 t.2.1 t.2.2 := by
    rw [Schema.resolver]
    split
    · exact ⟨[(_, _, _)], rfl⟩
    · exact ⟨[(_, _, _), (_, _, _)], rfl⟩
  obtain ⟨tests, htests⟩ := htests
  intro c hc
  rw [htests] at hc
  obtain ⟨t, -, rfl⟩ := List.mem_map.mp hc
  exact hasPlainGroups_test _ _ _

mutual

theorem hasPlainGroups_clause : (f : Filter) → (f.clause s.resolver).HasPlainGroups
  | .leaf r _ _ _ => hasPlainGroups_group r (hasPlainGroups_of_mem_resolver s)
  | .group r fs => hasPlainGroups_group r (hasPlainGroups_clauses fs)

theorem hasPlainGroups_clauses : (fs : List Filter) →
    ∀ c ∈ Filter.clauses s.resolver fs, c.HasPlainGroups
  | [], c, hc => by cases hc
  | f :: rest, c, hc => by
      rw [Filter.clauses, List.mem_cons] at hc
      rcases hc with rfl | hc
      · exact hasPlainGroups_clause f
      · exact hasPlainGroups_clauses rest c hc

end

/-- A tree that was made from items has columns only where it has no children. -/
theorem hasPlainGroups_ofItems {items : List Item} {c : Clause}
    (h : ofItems s.resolver items = .ok c) : c.HasPlainGroups := by
  obtain ⟨fs, -, rfl⟩ := ofItems_eq_ok_iff.mp h
  exact hasPlainGroups_group _ (hasPlainGroups_clauses s fs)

end Items

/-- A tree references a table exactly if building it asks for a predicate on a column of the table
or a node with children has such a column. So references and predicates agree unless the only
columns of the table belong to nodes with children; in particular they agree when no node with
children has a column. -/
theorem references_iff_predicates (table : String) (c : Clause) :
    (references table c = true ↔
        c.AsksFor table ∨ ∃ d : Clause, d.Within c ∧ d.children ≠ [] ∧ d.IsOn table) ∧
      ((references table c = true ↔ c.AsksFor table) ↔
        ((∃ d : Clause, d.Within c ∧ d.children ≠ [] ∧ d.IsOn table) → c.AsksFor table)) ∧
      (c.HasPlainGroups → (references table c = true ↔ c.AsksFor table)) := by
  have hreferences : references table c = true ↔
      c.AsksFor table ∨ ∃ d : Clause, d.Within c ∧ d.children ≠ [] ∧ d.IsOn table := by
    rw [references_iff, asksFor_iff]
    constructor
    · rintro ⟨d, hd, hon⟩
      by_cases hchildless : d.children = []
      · exact .inl ⟨d, hd, hchildless, hon⟩
      · exact .inr ⟨d, hd, hchildless, hon⟩
    · rintro (⟨d, hd, -, hon⟩ | ⟨d, hd, -, hon⟩)
      · exact ⟨d, hd, hon⟩
      · exact ⟨d, hd, hon⟩
  refine ⟨hreferences, ?_, ?_⟩
  · rw [hreferences, or_iff_left_iff_imp]
  · intro hplain
    rw [hreferences, or_iff_left]
    rintro ⟨d, hd, hchildren, rest, hcolumn⟩
    rw [hplain d hd hchildren] at hcolumn
    cases hcolumn

/-- A title, and next to it in parentheses a mood: both tables have predicates, and both are
referenced. -/
theorem references_titledAndCalm :
    ∃ c, ofItems Schema.default.resolver
        [.test "title" (.string "A"), .bracket [.test "mood" (.string "calm")]] = .ok c ∧
      c.HasPlainGroups ∧ (references "entries" c = true ∧ c.AsksFor "entries") ∧
      references "entry_data" c = true ∧ c.AsksFor "entry_data" := by
  have hmade : ofItems Schema.default.resolver
      [.test "title" (.string "A"), .bracket [.test "mood" (.string "calm")]] = .ok _ := rfl
  have hplain := hasPlainGroups_ofItems .default hmade
  obtain ⟨-, -, hentries⟩ := references_iff_predicates "entries" _
  obtain ⟨-, -, hdata⟩ := references_iff_predicates "entry_data" _
  exact ⟨_, hmade, hplain, ⟨by decide, (hentries hplain).mp (by decide)⟩, by decide,
    (hdata hplain).mp (by decide)⟩

/-- A test on the title that was given a test on a mood as a child. -/
def titledAroundCalm : Clause :=
  (test "entries.title" .equal (.string "A")).append
    [group .and
      [test "entry_data.content_type_field_short_tag" .equal (.string "mood"),
        test "entry_data.data" .equal (.string "calm")]]

/-- The node keeps its column when it gets a child. The tree then references the entity table and
builds no predicate on it. -/
theorem references_titledAroundCalm :
    (test "entries.title" .equal (.string "A")).appendItems Schema.default.resolver
        [.test "mood" (.string "calm")] = .ok titledAroundCalm ∧
      references "entries" titledAroundCalm = true ∧ ¬titledAroundCalm.AsksFor "entries" := by
  refine ⟨rfl, by decide, ?_⟩
  rintro ⟨rest, p, hmem⟩
  have hcolumn : isColumnOf "entries" ("entries" ++ "." ++ rest) = true :=
    isColumnOf_iff.mpr ⟨rest, rfl⟩
  have hbuilt : predicatesAll titledAroundCalm.build =
      [("entry_data.content_type_field_short_tag", .compare .equal (.string "mood")),
        ("entry_data.data", .compare .equal (.string "calm"))] := rfl
  rw [hbuilt, List.mem_cons, List.mem_singleton] at hmem
  rcases hmem with h | h
  · rw [(Prod.mk.inj h).1] at hcolumn
    exact absurd hcolumn (by decide)
  · rw [(Prod.mk.inj h).1] at hcolumn
    exact absurd hcolumn (by decide)

end FilterQuery.Clause
