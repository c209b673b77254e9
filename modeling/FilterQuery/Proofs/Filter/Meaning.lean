import FilterQuery.Proofs.Filter.Compile

/-!
# What a filter means

A filter is read directly, without a condition in between. A leaf on a column of the entity table is
its test on the entity. A leaf on any other field looks for one attribute row that carries the
field's name and passes the test. Siblings are read from the left, `and` binding tighter than `or`,
and a group counts as one sibling; a group without content is left out.

Compiling preserves this reading when both tables have one part. A schema with longer table names
can capture a column, and then the reading of a leaf changes.
-/

namespace FilterQuery

universe u v

variable {ε : Type u} {ρ : Type v}

/-- What the siblings after the first say: `done` is the value of the runs before, `run` the value
of the run at hand. -/
def Truth.continueWith (done run : Truth) : List (Connective × Truth) → Truth
  | [] => done.or run
  | (.and, t) :: rest => continueWith done (run.and t) rest
  | (.or, t) :: rest => continueWith (done.or run) t rest

/-- What siblings say together, none if there are none. How the first one attaches does not
matter. -/
def Truth.siblings? : List (Connective × Truth) → Option Truth
  | [] => none
  | (_, t) :: rest => some (.continueWith .no t rest)

/-- What a leaf says about an entity. -/
def Schema.leafTruth (s : Schema) (I : Interpretation ε ρ) (entity : ε) (field : String)
    (t : Test) : Truth :=
  if s.entity.hasColumn field then I.truth entity [] (s.entity.column field) t
  else
    .ofBool <| (I.attributeRows s entity).any fun row =>
      (I.truth entity [row] s.attributes.tag (.compare .equal (.string field))).holds &&
        (I.truth entity [row] s.attributes.value t).holds

namespace Filter

mutual

/-- What a filter says to its siblings. A group without content says nothing. -/
def value (s : Schema) (I : Interpretation ε ρ) (entity : ε) :
    Filter → Except Error (Option (Connective × Truth))
  | leaf connective field op value =>
    (Test.ofOperator op value).map fun t => some (connective, s.leafTruth I entity field t)
  | group connective filters =>
    (values s I entity filters).map fun vs => (Truth.siblings? vs).map fun t => (connective, t)

/-- What filters say, one after the other. -/
def values (s : Schema) (I : Interpretation ε ρ) (entity : ε) :
    List Filter → Except Error (List (Connective × Truth))
  | [] => .ok []
  | f :: rest => do
    let head ← value s I entity f
    let tail ← values s I entity rest
    return head.toList ++ tail

end

/-- The direct reading of a filter: what its items say together. Without content every entity
passes. -/
def reading (s : Schema) (I : Interpretation ε ρ) (entity : ε) (fs : List Filter) :
    Except Error Truth :=
  (values s I entity fs).map fun vs => (Truth.siblings? vs).getD .yes

end Filter

namespace Condition

variable {I : Interpretation ε ρ} {entity : ε}

/-- Reading from the left agrees with splitting into runs. -/
theorem continueWith_eq {rest : List (Connective × Condition)} {run : List Condition}
    {others : List (List Condition)} (h : ∀ r c, runs ((r, c) :: rest) = (c :: run) :: others)
    (done acc : Truth) :
    Truth.continueWith done acc (rest.map fun p => (p.1, p.2.truth I entity [])) =
      done.or ((acc.and (.all (run.map (truth I entity [])))).or
        (.any (others.map fun other => .all (other.map (truth I entity []))))) := by
  induction rest generalizing done acc run others with
  | nil =>
      have hruns : [[always]] = (always :: run) :: others := h .and always
      obtain ⟨rfl, rfl⟩ : run = [] ∧ others = [] := by simpa using hruns
      simp [Truth.continueWith]
  | cons head rest ih =>
      obtain ⟨r, d⟩ := head
      obtain ⟨run', others', hrest⟩ := exists_runs_cons rest
      have hruns := h .and always
      cases r with
      | and =>
          rw [runs_cons_and (hrest .and d)] at hruns
          obtain ⟨rfl, rfl⟩ : d :: run' = run ∧ others' = others := by simpa using hruns
          rw [List.map_cons, Truth.continueWith, ih hrest, List.map_cons, Truth.all_cons,
            Truth.and_assoc]
      | or =>
          rw [runs_cons_or, hrest] at hruns
          obtain ⟨rfl, rfl⟩ : [] = run ∧ (d :: run') :: others' = others := by
            simpa using hruns
          rw [List.map_cons, Truth.continueWith, ih hrest, List.map_cons, Truth.any_cons,
            List.map_cons, Truth.all_cons, List.map_nil, Truth.all_nil, Truth.and_yes,
            Truth.or_assoc]

/-- The condition of a chain says what its elements say as siblings. -/
theorem siblings?_eq {chain : List (Connective × Condition)} (h : NoneEmpty chain) :
    Truth.siblings? (chain.map fun p => (p.1, p.2.truth I entity [])) =
      (ofChain chain).map (truth I entity []) := by
  cases hc : ofChain chain with
  | none =>
      rw [ofChain_eq_none_iff.mp hc]
      rfl
  | some c =>
      cases chain with
      | nil => cases hc
      | cons head rest =>
          obtain ⟨run, others, hruns⟩ := exists_runs_cons rest
          rw [List.map_cons, Truth.siblings?, continueWith_eq hruns, Option.map_some,
            truth_of_ofChain h hc, chainTruth, hruns head.1 head.2]
          rfl

end Condition

open Condition

/-- The condition of a leaf says what the leaf says, provided that its column is not captured. -/
theorem Schema.truth_leafCondition {s : Schema} {field : String}
    (h : s.entity.hasColumn field = true → s.captures field = false) (t : Test)
    (I : Interpretation ε ρ) (entity : ε) :
    (s.leafCondition field t).truth I entity [] = s.leafTruth I entity field t := by
  rw [leafCondition, leafTruth]
  cases hfield : s.entity.hasColumn field with
  | true =>
      have hcaptures : Clause.isColumnOf s.attributes.table (s.entity.column field) = false :=
        h hfield
      rw [if_pos rfl, if_pos rfl, correlate_ofTest, hcaptures, Bool.and_false,
        if_neg Bool.false_ne_true, truth_ofTest]
  | false =>
      rw [if_neg Bool.false_ne_true, if_neg Bool.false_ne_true, wrap, truth,
        Interpretation.attributeRows, List.any_filter]
      apply congrArg Truth.ofBool
      apply congrArg (List.any _)
      funext row
      rw [truth, truths_eq_map (by simp [isEmpty])]
      simp [isEmpty, areEmpty, truth]

namespace Filter

variable {s : Schema}

mutual

/-- A filter says what the condition that it adds says. -/
theorem value_eq (h : s.HasPlainTables) (I : Interpretation ε ρ) (entity : ε) : (f : Filter) →
    value s I entity f =
      (element s f).map (Option.map fun p => (p.1, p.2.truth I entity []))
  | leaf connective field op value => by
      rw [Filter.value, element]
      cases Test.ofOperator op value with
      | error e => rfl
      | ok t =>
          have hcaptures : s.entity.hasColumn field = true → s.captures field = false :=
            fun hfield => h.captures_eq_false (EntityTable.hasColumn_iff.mp hfield)
          change Except.ok (some (connective, s.leafTruth I entity field t)) = _
          rw [← Schema.truth_leafCondition hcaptures]
          rfl
  | group connective filters => by
      rw [Filter.value, element, values_eq h I entity filters]
      cases hch : chain s filters with
      | error e => rfl
      | ok ch =>
          have hempty : NoneEmpty ch := fun p hp => (settled_of_chain filters hch p hp).nonempty
          change Except.ok ((Truth.siblings? (ch.map _)).map _) = Except.ok _
          rw [siblings?_eq hempty, Option.map_map, Option.map_map]
          rfl

theorem values_eq (h : s.HasPlainTables) (I : Interpretation ε ρ) (entity : ε) :
    (fs : List Filter) →
    values s I entity fs =
      (chain s fs).map (List.map fun p => (p.1, p.2.truth I entity []))
  | [] => rfl
  | f :: rest => by
      rw [values, chain, value_eq h I entity f, values_eq h I entity rest]
      cases element s f with
      | error e => rfl
      | ok head =>
          cases chain s rest with
          | error e => rfl
          | ok tail =>
              cases head with
              | none => rfl
              | some p => rfl

end

/-- Filters compile to a condition that says what the filters say. -/
theorem reading_eq (h : s.HasPlainTables) (I : Interpretation ε ρ) (entity : ε)
    (fs : List Filter) :
    reading s I entity fs =
      ((Clause.group .and (clauses s.resolver fs)).compile s).map (Condition.truth I entity []) := by
  rw [reading, values_eq h I entity fs, Clause.compile_clauses h.valid.checked]
  cases hch : chain s fs with
  | error e => rfl
  | ok ch =>
      have hempty : NoneEmpty ch := fun p hp => (settled_of_chain fs hch p hp).nonempty
      change Except.ok ((Truth.siblings? (ch.map _)).getD _) =
        Except.ok (((ofChain ch).getD (.all [])).truth I entity [])
      rw [siblings?_eq hempty]
      cases ofChain ch with
      | none => rfl
      | some c => rfl

end Filter

/-- Resolving items and compiling them preserves what the items say, for every entity, whatever the
tables hold and whatever the tests say. It fails exactly when the items have no reading. -/
theorem Clause.truth_compile_ofItems {s : Schema} (h : s.HasPlainTables) (items : List Item)
    (I : Interpretation ε ρ) (entity : ε) :
    (do
      let clause ← Clause.ofItems s.resolver items
      let c ← clause.compile s
      return c.truth I entity []) =
      (do
        let filters ← Item.filters items
        Filter.reading s I entity filters) := by
  cases hfs : Item.filters items with
  | error e =>
      rw [Clause.ofItems, appendItems, Item.resolveAll_eq, hfs]
      rfl
  | ok fs =>
      have hitems : ofItems s.resolver items = .ok (.group .and (Filter.clauses s.resolver fs)) :=
        ofItems_eq_ok_iff.mpr ⟨fs, hfs, rfl⟩
      rw [hitems]
      exact (Filter.reading_eq h I entity fs).symm

/-- On the stock schema: a title, and in parentheses an attribute behind a group without content. -/
theorem Clause.truth_compile_ofItems_default :
    Schema.default.HasPlainTables ∧
      (do
        let clause ← Clause.ofItems Schema.default.resolver
          [.test "title" (.string "A"), .bracket [.bracket [], .test "mood" (.string "calm")]]
        let c ← clause.compile Schema.default
        return c.truth
          (.ofTexts [[("entry_data.content_type_field_short_tag", "mood"),
            ("entry_data.data", "calm")]]) [("entries.title", "A")] []) = .ok .yes :=
  ⟨Schema.hasPlainTables_default,
    (Clause.truth_compile_ofItems Schema.hasPlainTables_default _ _ _).trans rfl⟩

end FilterQuery
