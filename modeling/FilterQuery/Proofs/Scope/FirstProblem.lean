import FilterQuery.Proofs.Scope.Elements
import FilterQuery.Proofs.Scope.Predicate

/-!
# The first bad call

A call is bad if its column is no identifier or its value does not fit. A scope goes on receiving
calls after a bad one, and scopes inside of it are opened, but none of that is seen any more.
`Scope.finish_eq_error_iff` states that a finished scope has the problem of the first bad call in
the order in which the calls come in, wherever scopes open and close between them.
-/

namespace FilterQuery

namespace Predicate

/-- The value of a predicate fits. -/
def Fits : Predicate → Prop
  | compare op _ => op.isComparison = true
  | membership _ values => ∃ elements, values = .array elements
  | range _ bounds => ∃ lower upper, bounds = .array [lower, upper]
  | nullness _ => True

/-- What is wrong with a value that does not fit. -/
inductive Misfit : Predicate → Error → Prop
  | compare {op : Operator} {value : Json} (h : op.isComparison = false) :
      Misfit (.compare op value) (.invalidValue op .notComparison)
  | membership {negated : Bool} {values : Json} (h : ¬∃ elements, values = .array elements) :
      Misfit (.membership negated values)
        (.invalidValue (if negated then .notInList else .inList) .notArray)
  | range {negated : Bool} {bounds : Json} (h : ¬∃ lower upper, bounds = .array [lower, upper]) :
      Misfit (.range negated bounds)
        (.invalidValue (if negated then .notBetween else .between) .notPair)

/-- The column of a predicate is no identifier or its value does not fit. -/
def IsBad (column : String) (p : Predicate) : Prop := ¬Identifier.IsText column ∨ ¬p.Fits

/-- What is wrong with a bad predicate. The value counts only if the column is an identifier. -/
inductive Problem (column : String) (p : Predicate) (e : Error) : Prop
  | column (h : Identifier.parse column = .error e)
  | value (hcolumn : Identifier.IsText column) (h : p.Misfit e)

variable {column : String} {p : Predicate} {e : Error}

theorem test_eq_error_iff : p.test = .error e ↔ p.Misfit e := by
  constructor
  · intro h
    cases p with
    | compare op value =>
        rw [test] at h
        cases hop : op.isComparison with
        | true => simp [hop] at h
        | false =>
            simp only [hop, Bool.false_eq_true, if_false] at h
            cases h
            exact .compare hop
    | membership negated values =>
        by_cases harray : ∃ elements, values = .array elements
        · obtain ⟨elements, rfl⟩ := harray
          cases h
        · rw [test_membership_of_not_array harray] at h
          cases h
          exact .membership harray
    | range negated bounds =>
        by_cases hpair : ∃ lower upper, bounds = .array [lower, upper]
        · obtain ⟨lower, upper, rfl⟩ := hpair
          cases h
        · rw [test_range_of_not_pair hpair] at h
          cases h
          exact .range hpair
    | nullness isNull => cases h
  · intro h
    cases h with
    | compare hop => simp [test, hop]
    | membership harray => exact test_membership_of_not_array harray _
    | range hpair => exact test_range_of_not_pair hpair _

/-- A value that does not fit has a problem. -/
theorem exists_misfit_iff : (∃ e, p.Misfit e) ↔ ¬p.Fits := by
  constructor
  · rintro ⟨e, h⟩ hfits
    cases h with
    | compare hop => exact Bool.false_ne_true (hop.symm.trans hfits)
    | membership harray => exact harray hfits
    | range hpair => exact hpair hfits
  · intro h
    cases p with
    | compare op value => exact ⟨_, .compare (Bool.eq_false_iff.mpr h)⟩
    | membership negated values => exact ⟨_, .membership h⟩
    | range negated bounds => exact ⟨_, .range h⟩
    | nullness isNull => exact absurd trivial h

theorem condition_eq_error_iff : p.condition column = .error e ↔ Problem column p e := by
  cases hparse : Identifier.parse column with
  | error e' =>
      have hcondition : p.condition column = .error e' := by
        rw [condition, hparse]
        rfl
      rw [hcondition]
      constructor
      · intro h
        cases h
        exact .column hparse
      · rintro (h | ⟨⟨i, hi⟩, -⟩)
        · cases hparse.symm.trans h
          rfl
        · cases hparse.symm.trans hi
  | ok i =>
      have hcolumn : Identifier.IsText column := ⟨i, hparse⟩
      rw [condition_of_isText hcolumn, Outcome.map_eq_error_iff, test_eq_error_iff]
      constructor
      · exact .value hcolumn
      · rintro (h | ⟨-, h⟩)
        · cases hparse.symm.trans h
        · exact h

theorem exists_problem_iff : (∃ e, Problem column p e) ↔ IsBad column p := by
  constructor
  · rintro ⟨e, h | ⟨-, h⟩⟩
    · refine .inl ?_
      rintro ⟨i, hi⟩
      cases hi.symm.trans h
    · exact .inr (exists_misfit_iff.mp ⟨e, h⟩)
  · intro h
    cases hparse : Identifier.parse column with
    | error e => exact ⟨e, .column hparse⟩
    | ok i =>
        have hcolumn : Identifier.IsText column := ⟨i, hparse⟩
        obtain ⟨e, he⟩ := exists_misfit_iff.mpr (h.resolve_left (not_not_intro hcolumn))
        exact ⟨e, .value hcolumn he⟩

theorem problem?_condition_eq_none_iff :
    Outcome.problem? (p.condition column) = none ↔ ¬IsBad column p := by
  rw [← exists_problem_iff, Option.eq_none_iff_forall_ne_some, not_exists]
  simp only [← condition_eq_error_iff, ne_eq, Outcome.problem?_eq_some_iff]

end Predicate

namespace Call

mutual

/-- The predicates that come in with a call, in order, each with its column. -/
def predicates : Call → List (String × Predicate)
  | predicate _ column p => [(column, p)]
  | nested _ calls => predicatesAll calls

/-- The predicates that come in with calls, in order. -/
def predicatesAll : List Call → List (String × Predicate)
  | [] => []
  | call :: rest => predicates call ++ predicatesAll rest

end

theorem predicatesAll_append (calls more : List Call) :
    predicatesAll (calls ++ more) = predicatesAll calls ++ predicatesAll more := by
  induction calls with
  | nil => rfl
  | cons call rest ih =>
      rw [List.cons_append, predicatesAll, predicatesAll, ih, List.append_assoc]

/-- What is wrong with the first of the predicates that is bad. -/
def firstProblem? (ps : List (String × Predicate)) : Option Error :=
  ps.findSome? fun q => Outcome.problem? (q.2.condition q.1)

mutual

theorem problem?_element (s : Schema) : (call : Call) →
    Outcome.problem? (element s call) = firstProblem? (predicates call)
  | .predicate connective column p => by
      rw [element, Outcome.problem?_map, predicates, firstProblem?, List.findSome?_singleton]
  | .nested connective calls => by
      rw [element, Outcome.problem?_map, predicates, problem?_elements s calls]

/-- Where scopes open and close does not matter for the problem of calls. -/
theorem problem?_elements (s : Schema) : (calls : List Call) →
    Outcome.problem? (elements s calls) = firstProblem? (predicatesAll calls)
  | [] => rfl
  | call :: rest => by
      rw [elements, Outcome.problem?_both, problem?_element s call, problem?_elements s rest,
        predicatesAll, firstProblem?, firstProblem?, firstProblem?, List.findSome?_append]

end

/-- The first problem is that of a bad predicate with none before it. -/
theorem firstProblem?_eq_some_iff {ps : List (String × Predicate)} {e : Error} :
    firstProblem? ps = some e ↔
      ∃ before column p after, ps = before ++ (column, p) :: after ∧
        (∀ q ∈ before, ¬q.2.IsBad q.1) ∧ p.Problem column e := by
  simp only [firstProblem?, List.findSome?_eq_some_iff, Outcome.problem?_eq_some_iff,
    Predicate.condition_eq_error_iff, Predicate.problem?_condition_eq_none_iff]
  constructor
  · rintro ⟨before, ⟨column, p⟩, after, hps, hproblem, hbefore⟩
    exact ⟨before, column, p, after, hps, hbefore, hproblem⟩
  · rintro ⟨before, column, p, after, hps, hbefore, hproblem⟩
    exact ⟨before, (column, p), after, hps, hproblem, hbefore⟩

theorem exists_firstProblem?_iff {ps : List (String × Predicate)} :
    (∃ e, firstProblem? ps = some e) ↔ ∃ q ∈ ps, q.2.IsBad q.1 := by
  rw [firstProblem?, ← Option.isSome_iff_exists, List.findSome?_isSome_iff]
  simp only [Option.isSome_iff_exists, Outcome.problem?_eq_some_iff,
    Predicate.condition_eq_error_iff, Predicate.exists_problem_iff]

/-- What comes behind a bad predicate is not seen. -/
theorem firstProblem?_append_of_isBad {before : List (String × Predicate)}
    {column : String} {p : Predicate} (h : p.IsBad column) (after : List (String × Predicate)) :
    firstProblem? (before ++ (column, p) :: after) = firstProblem? (before ++ [(column, p)]) := by
  obtain ⟨e, he⟩ := Predicate.exists_problem_iff.mpr h
  have hproblem : Outcome.problem? (p.condition column) = some e :=
    Outcome.problem?_eq_some_iff.mpr (Predicate.condition_eq_error_iff.mpr he)
  simp [firstProblem?, List.findSome?_append, hproblem]

end Call

namespace Scope

open Call

variable {schema : Schema} {calls : List Call}

theorem finish_receiveAll_eq_error_iff {e : Error} :
    (receiveAll schema {} calls).finish schema = .error e ↔
      firstProblem? (predicatesAll calls) = some e := by
  rw [finish_receiveAll, Outcome.map_eq_error_iff, ← Outcome.problem?_eq_some_iff,
    problem?_elements]

/-- A finished scope fails exactly when some call is bad, at whatever depth. It then has the problem
of the first bad call, and calls that come behind that one, in open or in new scopes, make no
difference. -/
theorem finish_eq_error_iff (schema : Schema) (calls : List Call) :
    ((∃ e, (receiveAll schema {} calls).finish schema = .error e) ↔
        ∃ q ∈ predicatesAll calls, q.2.IsBad q.1) ∧
      (∀ e, (receiveAll schema {} calls).finish schema = .error e ↔
        ∃ before column p after, predicatesAll calls = before ++ (column, p) :: after ∧
          (∀ q ∈ before, ¬q.2.IsBad q.1) ∧ p.Problem column e) ∧
      ∀ before column p after, predicatesAll calls = before ++ (column, p) :: after →
        p.IsBad column →
        ∀ calls' after', predicatesAll calls' = before ++ (column, p) :: after' →
          (receiveAll schema {} calls').finish schema =
            (receiveAll schema {} calls).finish schema := by
  refine ⟨?_, ?_, ?_⟩
  · simp only [finish_receiveAll_eq_error_iff]
    exact exists_firstProblem?_iff
  · intro e
    exact finish_receiveAll_eq_error_iff.trans firstProblem?_eq_some_iff
  · intro before column p after hcalls hbad calls' after' hcalls'
    have hmem : (column, p) ∈ predicatesAll calls := by
      rw [hcalls]
      exact List.mem_append_right _ List.mem_cons_self
    obtain ⟨e, he⟩ := exists_firstProblem?_iff.mpr ⟨_, hmem, hbad⟩
    -- the predicates of both agree up to the bad one, whatever scopes they stand in
    have hsame : firstProblem? (predicatesAll calls') = firstProblem? (predicatesAll calls) := by
      rw [hcalls, hcalls', firstProblem?_append_of_isBad hbad,
        firstProblem?_append_of_isBad hbad after]
    rw [finish_receiveAll_eq_error_iff.mpr he,
      finish_receiveAll_eq_error_iff.mpr (hsame.trans he)]

/-- A title, and two scopes further in a column that is no identifier with a value that does not
fit. Other calls come in behind it, in its scope and outside. -/
def numberedColumn (inside outside : List Call) : List Call :=
  [.predicate .and "entries.title" (.compare .equal (.string "A")),
    .nested .or
      [.nested .and (.predicate .and "1st" (.membership false (.string "B")) :: inside)]] ++ outside

/-- The column is reported, not its value, and two more bad calls behind it are not seen. -/
theorem finish_numberedColumn :
    (receiveAll .default {} (numberedColumn [] [])).finish .default =
        .error (.identifier (.badStart '1')) ∧
      (receiveAll .default {} (numberedColumn
          [.predicate .or "entries.id" (.range false .null)]
          [.predicate .and "" (.compare .like (.string "C"))])).finish .default =
        .error (.identifier (.badStart '1')) := by
  have hbefore : ∀ q ∈ [("entries.title", Predicate.compare .equal (.string "A"))],
      ¬q.2.IsBad q.1 := by
    intro q hq
    cases List.mem_singleton.mp hq
    rintro (h | h)
    · exact h ⟨_, rfl⟩
    · exact h rfl
  have hproblem : (Predicate.membership false (.string "B")).Problem "1st"
      (.identifier (.badStart '1')) := .column rfl
  obtain ⟨-, hfirst, hlater⟩ := finish_eq_error_iff .default (numberedColumn [] [])
  have herror := (hfirst _).mpr ⟨_, _, _, [], rfl, hbefore, hproblem⟩
  have hbad := Predicate.exists_problem_iff.mp ⟨_, hproblem⟩
  have hsame := hlater [_] _ _ [] rfl hbad (numberedColumn
      [.predicate .or "entries.id" (.range false .null)]
      [.predicate .and "" (.compare .like (.string "C"))])
    [("entries.id", .range false .null), ("", .compare .like (.string "C"))] rfl
  exact ⟨herror, hsame.trans herror⟩

end Scope

end FilterQuery
