import FilterQuery.Clause.Resolve

/-!
# Filters

An item becomes a filter once its texts are read: the connective and the operator are known, and a
leaf has a field and a value. Resolving an item reads it as a filter first and then puts the tests
of the resolver in place of every leaf, so a resolver has no part in what is reported as a problem.
-/

namespace FilterQuery

/-- A filter item whose parts have been read. -/
inductive Filter where
  /-- A test on a logical field. -/
  | leaf (connective : Connective) (field : String) (operator : Operator) (value : Json)
  /-- A parenthesised filter. -/
  | group (connective : Connective) (filters : List Filter)

namespace Item

mutual

/-- Reads an item. -/
def filter : Item → Except Error Filter
  | group relation items => do
    let connective ← connective relation
    return .group connective (← filters items)
  | leaf field operator value relation => do
    let connective ← connective relation
    let field ← field.elim (.error (.missingPart .field)) .ok
    let value ← valueOf operator value
    let op ← operatorOf operator
    return .leaf connective field op value

/-- Reads items. -/
def filters : List Item → Except Error (List Filter)
  | [] => .ok []
  | item :: rest => return (← filter item) :: (← filters rest)

end

end Item

namespace Filter

mutual

/-- The group of clauses for a filter. -/
def clause (resolver : Resolver) : Filter → Clause
  | leaf connective field op value => .group connective (resolver field op value)
  | group connective filters => .group connective (clauses resolver filters)

/-- The groups of clauses for filters. -/
def clauses (resolver : Resolver) : List Filter → List Clause
  | [] => []
  | f :: rest => clause resolver f :: clauses resolver rest

end

end Filter

namespace Item

variable (resolver : Resolver)

mutual

/-- An item is read first and resolved afterwards. -/
theorem resolve_eq : (item : Item) →
    item.resolve resolver = item.filter.map (Filter.clause resolver)
  | .group relation items => by
      rw [resolve, filter, resolveAll_eq items]
      cases connective relation with
      | error e => rfl
      | ok c =>
          cases filters items with
          | error e => rfl
          | ok fs => rfl
  | .leaf field operator value relation => by
      rw [resolve, filter]
      cases connective relation with
      | error e => rfl
      | ok c =>
          cases field with
          | none => rfl
          | some field =>
              cases valueOf operator value with
              | error e => rfl
              | ok v =>
                  cases operatorOf operator with
                  | error e => rfl
                  | ok op => rfl

theorem resolveAll_eq : (items : List Item) →
    resolveAll resolver items = (filters items).map (Filter.clauses resolver)
  | [] => rfl
  | item :: rest => by
      rw [resolveAll, filters, resolve_eq item, resolveAll_eq rest]
      cases item.filter with
      | error e => rfl
      | ok f =>
          cases filters rest with
          | error e => rfl
          | ok fs => rfl

end

end Item

/-- The root of a filter holds the groups of the filters that were read. -/
theorem Clause.ofItems_eq_ok_iff {resolver : Resolver} {items : List Item} {clause : Clause} :
    ofItems resolver items = .ok clause ↔
      ∃ fs, Item.filters items = .ok fs ∧ clause = group .and (Filter.clauses resolver fs) := by
  rw [ofItems, appendItems, Item.resolveAll_eq]
  cases Item.filters items with
  | error e =>
      constructor
      · intro h
        cases h
      · rintro ⟨fs, hfs, -⟩
        cases hfs
  | ok fs =>
      constructor
      · intro h
        cases h
        exact ⟨fs, rfl, rfl⟩
      · rintro ⟨fs', hfs, rfl⟩
        cases hfs
        rfl

end FilterQuery
