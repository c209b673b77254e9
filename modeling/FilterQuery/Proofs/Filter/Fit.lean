import FilterQuery.Proofs.Filter.Leaves

/-!
# When a filter does not compile

Resolving a filter checks its texts but not the form of its values. With a valid schema that is all
that is left to go wrong: every column that a leaf is put on reads as an identifier again, although
table and column were checked apart and the column is read as a whole. `Clause.compile_eq_error_iff`
states when compiling fails and with which error.
-/

namespace FilterQuery

namespace Operator

/-- The values that an operator works with: an array for membership, an array of two elements for a
range, any value otherwise. -/
def Accepts : Operator → Json → Prop
  | inList, value | notInList, value => ∃ elements, value = .array elements
  | between, value | notBetween, value => ∃ lower upper, value = .array [lower, upper]
  | _, _ => True

/-- What is wrong with a value that an operator does not accept. -/
def objection : Operator → ValueProblem
  | inList | notInList => .notArray
  | _ => .notPair

end Operator

namespace Test

theorem exists_ofOperator_of_accepts {op : Operator} {value : Json} (h : op.Accepts value) :
    ∃ t, ofOperator op value = .ok t := by
  cases op with
  | inList =>
      obtain ⟨elements, rfl⟩ := h
      exact ⟨_, rfl⟩
  | notInList =>
      obtain ⟨elements, rfl⟩ := h
      exact ⟨_, rfl⟩
  | between =>
      obtain ⟨lower, upper, rfl⟩ := h
      exact ⟨_, rfl⟩
  | notBetween =>
      obtain ⟨lower, upper, rfl⟩ := h
      exact ⟨_, rfl⟩
  | _ => exact ⟨_, rfl⟩

theorem ofOperator_of_not_accepts {op : Operator} {value : Json} (h : ¬op.Accepts value) :
    ofOperator op value = .error (.invalidValue op op.objection) := by
  cases op with
  | inList => exact Predicate.test_membership_of_not_array h false
  | notInList => exact Predicate.test_membership_of_not_array h true
  | between => exact Predicate.test_range_of_not_pair h false
  | notBetween => exact Predicate.test_range_of_not_pair h true
  | _ => exact absurd trivial h

end Test

namespace Filter

theorem leafProblem?_eq_none_iff {l : String × Operator × Json} :
    leafProblem? l = none ↔ l.2.1.Accepts l.2.2 := by
  rw [leafProblem?, Outcome.problem?_eq_none_iff]
  constructor
  · rintro ⟨t, ht⟩
    apply Classical.byContradiction
    intro h
    rw [Test.ofOperator_of_not_accepts h] at ht
    cases ht
  · exact Test.exists_ofOperator_of_accepts

theorem leafProblem?_eq_some_iff {l : String × Operator × Json} {e : Error} :
    leafProblem? l = some e ↔
      ¬l.2.1.Accepts l.2.2 ∧ e = .invalidValue l.2.1 l.2.1.objection := by
  constructor
  · intro h
    have haccepts : ¬l.2.1.Accepts l.2.2 := by
      rw [← leafProblem?_eq_none_iff, h]
      exact Option.some_ne_none e
    rw [leafProblem?, Test.ofOperator_of_not_accepts haccepts] at h
    exact ⟨haccepts, (Option.some.inj h).symm⟩
  · rintro ⟨haccepts, rfl⟩
    rw [leafProblem?, Test.ofOperator_of_not_accepts haccepts]
    rfl

/-- Compiling filters fails with the problem of their first leaf that has one. -/
theorem compile_clauses_eq_error_iff {s : Schema} (h : s.Checked) (fs : List Filter) (e : Error) :
    (Clause.group .and (clauses s.resolver fs)).compile s = .error e ↔
      (leavesAll fs).findSome? leafProblem? = some e := by
  rw [Clause.compile_clauses h, ← Outcome.problem?_eq_some_iff, Outcome.problem?_map,
    problem?_chain fs]

end Filter

/-- A resolved filter fails to compile exactly when some leaf has a value that its operator does not
accept. The error is that of the first such leaf in the order of the document; it is never about an
identifier. -/
theorem Clause.compile_eq_error_iff {s : Schema} (h : s.IsValid) {items : List Item}
    {clause : Clause} (hitems : Clause.ofItems s.resolver items = .ok clause) :
    ∃ fs, Item.filters items = .ok fs ∧
      (∀ problem, clause.compile s ≠ .error (.validation problem)) ∧
      ((∃ e, clause.compile s = .error e) ↔
        ∃ leaf ∈ Filter.leavesAll fs, ¬leaf.2.1.Accepts leaf.2.2) ∧
      ∀ e, clause.compile s = .error e ↔
        ∃ before leaf after, Filter.leavesAll fs = before ++ leaf :: after ∧
          (∀ l ∈ before, l.2.1.Accepts l.2.2) ∧ ¬leaf.2.1.Accepts leaf.2.2 ∧
            e = .invalidValue leaf.2.1 leaf.2.1.objection := by
  obtain ⟨fs, hfs, rfl⟩ := ofItems_eq_ok_iff.mp hitems
  have hfirst : ∀ e, (Clause.group .and (Filter.clauses s.resolver fs)).compile s = .error e ↔
      ∃ before leaf after, Filter.leavesAll fs = before ++ leaf :: after ∧
        (∀ l ∈ before, l.2.1.Accepts l.2.2) ∧ ¬leaf.2.1.Accepts leaf.2.2 ∧
          e = .invalidValue leaf.2.1 leaf.2.1.objection := by
    intro e
    rw [Filter.compile_clauses_eq_error_iff h.checked, List.findSome?_eq_some_iff]
    simp only [Filter.leafProblem?_eq_none_iff, Filter.leafProblem?_eq_some_iff]
    constructor
    · rintro ⟨before, leaf, after, hleaves, ⟨hleaf, he⟩, hbefore⟩
      exact ⟨before, leaf, after, hleaves, hbefore, hleaf, he⟩
    · rintro ⟨before, leaf, after, hleaves, hbefore, hleaf, he⟩
      exact ⟨before, leaf, after, hleaves, ⟨hleaf, he⟩, hbefore⟩
  refine ⟨fs, hfs, ?_, ?_, hfirst⟩
  · intro problem hproblem
    obtain ⟨_, _, _, _, _, _, he⟩ := (hfirst _).mp hproblem
    cases he
  · constructor
    · rintro ⟨e, he⟩
      obtain ⟨before, leaf, after, hleaves, -, hleaf, -⟩ := (hfirst e).mp he
      exact ⟨leaf, by simp [hleaves], hleaf⟩
    · rintro ⟨leaf, hmem, hleaf⟩
      cases hfind : (Filter.leavesAll fs).findSome? Filter.leafProblem? with
      | some e => exact ⟨e, (Filter.compile_clauses_eq_error_iff h.checked fs e).mpr hfind⟩
      | none =>
          have hnone := List.findSome?_eq_none_iff.mp hfind leaf hmem
          exact absurd (Filter.leafProblem?_eq_none_iff.mp hnone) hleaf

/-- Tables with names in several parts, some of them in quotes. -/
def Schema.quotedNames : Schema where
  entity := { EntityTable.default with table := "cms.\"Entries.v2\"" }
  attributes := { AttributeTable.default with table := "\"cms data\".attributes" }

/-- A list that fits, in a group; a range with one bound; a text where a list is asked for. -/
def Item.misfits : List Item :=
  [.bracket [(Item.test "mood" (.array [.string "calm"])).withOperator "in"],
    (Item.test "price" (.array [.string "low"])).withOperator "BETWEEN",
    (Item.test "title" (.string "A")).withOperator "not in"]

theorem Item.filters_misfits :
    Item.filters Item.misfits =
      .ok [.group .and [.leaf .and "mood" .inList (.array [.string "calm"])],
        .leaf .and "price" .between (.array [.string "low"]),
        .leaf .and "title" .notInList (.string "A")] := rfl

/-- Of the two leaves whose values do not fit the range comes first. -/
theorem Clause.compile_misfits_eq_error :
    Schema.quotedNames.IsValid ∧
      ∃ clause, Clause.ofItems Schema.quotedNames.resolver Item.misfits = .ok clause ∧
        clause.compile Schema.quotedNames = .error (.invalidValue .between .notPair) := by
  have hvalid : Schema.quotedNames.IsValid := rfl
  have hitems : Clause.ofItems Schema.quotedNames.resolver Item.misfits = .ok _ :=
    ofItems_eq_ok_iff.mpr ⟨_, Item.filters_misfits, rfl⟩
  obtain ⟨fs, hfs, -, -, hfirst⟩ := Clause.compile_eq_error_iff hvalid hitems
  cases Item.filters_misfits.symm.trans hfs
  refine ⟨hvalid, _, hitems, (hfirst _).mpr ?_⟩
  refine ⟨[("mood", .inList, .array [.string "calm"])],
    ("price", .between, .array [.string "low"]), [("title", .notInList, .string "A")], rfl,
    ?_, ?_, rfl⟩
  · intro l hl
    cases List.mem_singleton.mp hl
    exact ⟨_, rfl⟩
  · rintro ⟨lower, upper, h⟩
    cases h

end FilterQuery
