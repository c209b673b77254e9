import FilterQuery.Proofs.Condition.Chain
import FilterQuery.Proofs.Condition.Correlation
import FilterQuery.Proofs.Filter.Basic
import FilterQuery.Proofs.Schema.Columns
import FilterQuery.Proofs.Scope.Elements
import FilterQuery.Proofs.Scope.Predicate

/-!
# The condition of a filter

A filter has a condition by recursion on the filter alone: every leaf has its own, and a group folds
the conditions of its filters. `compile_eq` states that the clause of a filter compiles to it.
Correlation is at work at the leaves only. What a leaf adds has no test on the attribute table
outside of a subquery, and then neither has any group around it, so correlating again at the end of
every scope changes nothing.
-/

namespace FilterQuery

open Condition

/-- The condition of a test on a logical field. A field of the entity table is tested there; any
other on a row of the attribute table that has the field's name as its tag. -/
def Schema.leafCondition (s : Schema) (field : String) (t : Test) : Condition :=
  if s.entity.hasColumn field then
    correlate s.attributes.table s.correlation (ofTest (s.entity.column field) t)
  else
    wrap s.attributes.table s.correlation
      (.all [.compare s.attributes.tag .equal (.string field), ofTest s.attributes.value t])

namespace Filter

mutual

/-- What a filter adds to the scope around it. A group without content adds nothing. -/
def element (s : Schema) : Filter → Except Error (Option (Connective × Condition))
  | leaf connective field op value =>
    (Test.ofOperator op value).map fun t => some (connective, s.leafCondition field t)
  | group connective filters =>
    (chain s filters).map fun c => (ofChain c).map fun d => (connective, d)

/-- What filters add to the scope around them. -/
def chain (s : Schema) : List Filter → Except Error (List (Connective × Condition))
  | [] => .ok []
  | f :: rest => do
    let head ← element s f
    let tail ← chain s rest
    return head.toList ++ tail

end

end Filter

/-- A condition that is not empty and has no test on the attribute table outside of a subquery. -/
structure Schema.Settled (s : Schema) (c : Condition) : Prop where
  nonempty : c.isEmpty = false
  inside : (touch s.attributes.table c).inside = false

namespace Schema

variable {s : Schema}

theorem correlate_ofTest (table correlation column : String) (t : Test) :
    correlate table correlation (ofTest column t) =
      if t.constant?.isNone && Clause.isColumnOf table column then
        wrap table correlation (ofTest column t)
      else ofTest column t := by
  have htouch : touch table (ofTest column t) =
      if t.constant?.isSome then .none else .ofColumn table column := touch_ofTest column t
  split
  · next h =>
    obtain ⟨hconstant, hcolumn⟩ := Bool.and_eq_true_iff.mp h
    apply correlate_of_isPure
    rw [isPure, htouch]
    simp [Option.isNone_iff_eq_none.mp hconstant, Touch.ofColumn, Touch.isPure, hcolumn]
  · next h =>
    apply correlate_of_inside_eq_false
    rw [htouch]
    split
    · rfl
    · next hconstant =>
      have hnone : t.constant?.isNone = true := by
        rw [Option.isNone_iff_eq_none]
        exact Option.not_isSome_iff_eq_none.mp hconstant
      simpa [hnone, Touch.ofColumn] using h

theorem settled_leafCondition (s : Schema) (field : String) (t : Test) :
    s.Settled (s.leafCondition field t) := by
  rw [leafCondition]
  split
  · refine ⟨?_, inside_touch_correlate _⟩
    rw [correlate_ofTest]
    split
    · rfl
    · exact isEmpty_ofTest _ t
  · exact ⟨rfl, rfl⟩

/-- A leaf that is no column of the entity table only tests columns of the attribute table. -/
theorem isPure_tag_and_value (s : Schema) (field : String) (t : Test) :
    isPure s.attributes.table
      (.all [.compare s.attributes.tag .equal (.string field), ofTest s.attributes.value t]) =
        true := by
  have htag : Clause.isColumnOf s.attributes.table s.attributes.tag = true :=
    isColumnOf_append _ _
  have hvalue : Clause.isColumnOf s.attributes.table s.attributes.value = true :=
    isColumnOf_append _ _
  rw [isPure, touch, touchAll, touchAll, touch_ofTest, touchAll, touch]
  split
  · simp [Touch.ofColumn, Touch.union, Touch.isPure, Touch.none, htag]
  · simp [Touch.ofColumn, Touch.union, Touch.isPure, Touch.none, htag, hvalue]

/-- What is settled stays so in a chain. -/
theorem settled_ofChain {chain : List (Connective × Condition)} {c : Condition}
    (h : ∀ p ∈ chain, s.Settled p.2) (hc : ofChain chain = some c) : s.Settled c := by
  constructor
  · exact isEmpty_of_ofChain (fun p hp => (h p hp).nonempty) hc
  · rw [touch_of_ofChain hc]
    apply Bool.eq_false_iff.mpr
    intro hin
    obtain ⟨d, hd, hdin⟩ := inside_touchAll_iff.mp hin
    obtain ⟨p, hp, rfl⟩ := List.mem_map.mp hd
    rw [(h p hp).inside] at hdin
    cases hdin

/-- A settled chain folds without correlation. -/
theorem fold_eq {chain : List (Connective × Condition)} (h : ∀ p ∈ chain, s.Settled p.2) :
    Scope.fold s chain = ofChain chain := by
  rw [Scope.fold]
  cases hc : ofChain chain with
  | none => rfl
  | some c =>
      rw [Option.map_some, correlate_of_inside_eq_false (settled_ofChain h hc).inside]

end Schema

namespace Filter

variable {s : Schema}

mutual

/-- What a filter adds is settled. -/
theorem settled_of_element : (f : Filter) → {p : Connective × Condition} →
    element s f = .ok (some p) → s.Settled p.2
  | leaf connective field op value, p, h => by
      obtain ⟨t, -, hp⟩ := Outcome.map_eq_ok_iff.mp h
      cases hp
      exact Schema.settled_leafCondition s field t
  | group connective filters, p, h => by
      obtain ⟨ch, hch, hp⟩ := Outcome.map_eq_ok_iff.mp h
      obtain ⟨c, hc, rfl⟩ := Option.map_eq_some_iff.mp hp
      exact Schema.settled_ofChain (settled_of_chain filters hch) hc

theorem settled_of_chain : (fs : List Filter) → {ch : List (Connective × Condition)} →
    chain s fs = .ok ch → ∀ p ∈ ch, s.Settled p.2
  | [], ch, h => by
      cases h
      simp
  | f :: rest, ch, h => by
      obtain ⟨head, hhead, h⟩ := Outcome.bind_eq_ok_iff.mp h
      obtain ⟨tail, htail, h⟩ := Outcome.bind_eq_ok_iff.mp h
      cases h
      intro p hp
      rcases List.mem_append.mp hp with hp | hp
      · rw [Option.mem_toList] at hp
        exact settled_of_element f (by rw [hhead, hp])
      · exact settled_of_chain rest htail p hp

end

end Filter

namespace Call

variable {s : Schema}

/-- A predicate on a column that reads as an identifier adds the condition of its test. -/
theorem elements_predicate {column : String} (h : Identifier.IsText column)
    (connective : Connective) (p : Predicate) :
    elements s [.predicate connective column p] =
      p.test.map fun t => [(connective, ofTest column t)] := by
  rw [elements, element, Predicate.condition_of_isText h]
  cases p.test with
  | error e => rfl
  | ok t => rfl

theorem elements_nested (connective : Connective) (calls : List Call) :
    elements s [.nested connective calls] =
      (elements s calls).map fun chain =>
        ((Scope.fold s chain).map fun c => (connective, c)).toList := by
  rw [elements, element]
  cases elements s calls with
  | error e => rfl
  | ok chain => exact congrArg Except.ok (List.append_nil _)

/-- A group without children makes no call; an empty scope would collect nothing either. -/
theorem elements_group (connective : Connective) (children : List Clause) :
    elements s (Clause.group connective children).build =
      (elements s (Clause.buildAll children)).map fun chain =>
        ((Scope.fold s chain).map fun c => (connective, c)).toList := by
  cases children with
  | nil => rfl
  | cons c rest => exact elements_nested connective _

/-- The tests of a leaf fold to its condition. -/
theorem elements_leaf (h : s.Checked) (connective : Connective) (field : String) (op : Operator)
    (value : Json) :
    elements s (Clause.group connective (s.resolver field op value)).build =
      (Test.ofOperator op value).map fun t => [(connective, s.leafCondition field t)] := by
  cases hfield : s.entity.hasColumn field with
  | true =>
      have hcolumn := h.isText_column (EntityTable.hasColumn_iff.mp hfield)
      have hcalls : (Clause.group connective (s.resolver field op value)).build =
          [.nested connective
            [.predicate .and (s.entity.column field) (.ofOperator op value)]] := by
        rw [Schema.resolver, if_pos hfield]
        rfl
      rw [hcalls, elements_nested, elements_predicate hcolumn, Test.ofOperator]
      cases (Predicate.ofOperator op value).test with
      | error e => rfl
      | ok t =>
          change Except.ok _ = Except.ok [(connective, s.leafCondition field t)]
          rw [Schema.leafCondition, if_pos hfield]
          rfl
  | false =>
      have hcalls : (Clause.group connective (s.resolver field op value)).build =
          [.nested connective
            ([.predicate .and s.attributes.tag (.compare .equal (.string field))] ++
              [.predicate .and s.attributes.value (.ofOperator op value)])] := by
        rw [Schema.resolver, if_neg (Bool.eq_false_iff.mp hfield)]
        rfl
      rw [hcalls, elements_nested, elements_append, elements_predicate h.isText_tag,
        elements_predicate h.isText_value, Test.ofOperator]
      cases (Predicate.ofOperator op value).test with
      | error e => rfl
      | ok t =>
          have hpure := Schema.isPure_tag_and_value s field t
          change Except.ok [(connective, correlate _ _ (.all _))] = Except.ok [(connective, _)]
          rw [Schema.leafCondition, if_neg (Bool.eq_false_iff.mp hfield)]
          exact congrArg (fun c => Except.ok [(connective, c)]) (correlate_of_isPure hpure)

end Call

namespace Filter

variable {s : Schema}

mutual

/-- The calls of a filter collect what the filter adds. -/
theorem elements_build (h : s.Checked) : (f : Filter) →
    Call.elements s (f.clause s.resolver).build = (element s f).map Option.toList
  | leaf connective field op value => by
      rw [clause, Call.elements_leaf h, element]
      cases Test.ofOperator op value with
      | error e => rfl
      | ok t => rfl
  | group connective filters => by
      rw [clause, element, Call.elements_group, elements_buildAll h filters]
      cases hch : chain s filters with
      | error e => rfl
      | ok ch =>
          have hfold := Schema.fold_eq (settled_of_chain filters hch)
          change Except.ok ((Scope.fold s ch).map fun c => (connective, c)).toList = _
          rw [hfold]
          rfl

theorem elements_buildAll (h : s.Checked) : (fs : List Filter) →
    Call.elements s (Clause.buildAll (clauses s.resolver fs)) = chain s fs
  | [] => rfl
  | f :: rest => by
      rw [clauses, Clause.buildAll, Call.elements_append, elements_build h f,
        elements_buildAll h rest, chain]
      cases element s f with
      | error e => rfl
      | ok head => rfl

end

end Filter

/-- The clause of filters compiles to the condition of their chain. -/
theorem Clause.compile_clauses {s : Schema} (h : s.Checked) (fs : List Filter) :
    (Clause.group .and (Filter.clauses s.resolver fs)).compile s =
      (Filter.chain s fs).map fun chain => (ofChain chain).getD (.all []) := by
  rw [Clause.compile_eq, Call.elements_group, Filter.elements_buildAll h fs]
  cases hch : Filter.chain s fs with
  | error e => rfl
  | ok ch =>
      have hsettled := Filter.settled_of_chain fs hch
      change Except.ok ((Scope.fold s ((Scope.fold s ch).map fun c =>
        (Connective.and, c)).toList).getD (.all [])) = Except.ok ((ofChain ch).getD (.all []))
      rw [Schema.fold_eq hsettled]
      cases hc : ofChain ch with
      | none => rfl
      | some c =>
          have hinside := (Schema.settled_ofChain hsettled hc).inside
          exact congrArg Except.ok (correlate_of_inside_eq_false hinside)

end FilterQuery
