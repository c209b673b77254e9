import FilterQuery.Proofs.Condition.Occurrence
import FilterQuery.Proofs.Scope.Elements
import FilterQuery.Proofs.Scope.Predicate

/-!
# Where the attribute table is tested

Every closing scope correlates what it holds, subqueries of inner scopes included. Whatever the
calls and however deep their scopes, the outcome is the same: tests on the attribute table stand in
subqueries, every subquery is on that table and correlated to the entity, and none has another one
inside. `Scope.isCorrelated_of_finish` states this.

## Implementation notes

A step only has to keep what is known of the subqueries that are there. That no test stays outside
is no invariant: it holds of a scope when it closes, not while calls come in.
-/

namespace FilterQuery

namespace Condition

variable {table correlation : String}

/-- Every subquery is on the table, has the correlation, and is a condition on a row of the
table. -/
def SubqueriesFit (table correlation : String) (c : Condition) : Prop :=
  ∀ t r d, Occurs (existsRow t r d) c → t = table ∧ r = correlation ∧ d.IsRowTest table

/-- The table is tested inside of subqueries only, and subqueries are for nothing else. -/
structure IsCorrelated (table correlation : String) (c : Condition) : Prop where
  enclosed : ∀ d, Exposed d c → ¬d.IsTestOn table
  subqueries : SubqueriesFit table correlation c

theorem subqueriesFit_all_iff {cs : List Condition} :
    SubqueriesFit table correlation (all cs) ↔ ∀ c ∈ cs, SubqueriesFit table correlation c := by
  constructor
  · intro h c hc t r d hd
    exact h t r d (.all hc hd)
  · rintro h t r d (_ | ⟨hc, hd⟩)
    exact h _ hc t r d hd

theorem subqueriesFit_any_iff {cs : List Condition} :
    SubqueriesFit table correlation (any cs) ↔ ∀ c ∈ cs, SubqueriesFit table correlation c := by
  constructor
  · intro h c hc t r d hd
    exact h t r d (.any hc hd)
  · rintro h t r d (_ | _ | ⟨hc, hd⟩)
    exact h _ hc t r d hd

theorem subqueriesFit_ofTest (column : String) (t : Test) :
    SubqueriesFit table correlation (ofTest column t) := by
  intro t' r d hd
  cases t with
  | compare op v => cases hd
  | nullness isNull => cases hd
  | range lower upper negated => cases hd
  | membership vs negated => cases vs <;> cases negated <;> cases hd

theorem subqueriesFit_wrap {c : Condition} (h : isPure table c = true) :
    SubqueriesFit table correlation (wrap table correlation c) := by
  have hrow : c.IsRowTest table := isPure_iff_isRowTest.mp h
  rintro t r d (_ | _ | _ | hd)
  · exact ⟨rfl, rfl, hrow⟩
  · exact absurd ⟨t, r, d, rfl⟩ (hrow.flat _ hd)

/-- Correlation keeps the subqueries that fit and adds no others. -/
theorem SubqueriesFit.correlate {c : Condition} (h : SubqueriesFit table correlation c) :
    SubqueriesFit table correlation (correlate table correlation c) := by
  refine correlateInduction (motive := fun c d =>
    SubqueriesFit table correlation c → SubqueriesFit table correlation d) ?_ ?_ ?_ ?_ c h
  · intro c hpure _
    exact subqueriesFit_wrap hpure
  · intro c _ h
    exact h
  · intro cs _ ih h
    rw [subqueriesFit_all_iff]
    intro d hd
    rcases mem_gather_iff.mp hd with ⟨run, hrun, hsome, rfl⟩ | ⟨c, hc, -, rfl⟩
    · cases hrun
      exact subqueriesFit_wrap (isPure_conjunction_filter hsome)
    · exact ih c hc (subqueriesFit_all_iff.mp h c hc)
  · intro cs _ ih h
    rw [subqueriesFit_any_iff]
    intro d hd
    obtain ⟨c, hc, rfl⟩ := List.mem_map.mp hd
    exact ih c hc (subqueriesFit_any_iff.mp h c hc)

end Condition

namespace Scope

open Condition

/-- A closed scope has subqueries that fit if its elements have. -/
theorem subqueriesFit_of_fold {s : Schema} {chain : List (Connective × Condition)}
    {c : Condition} (h : ∀ p ∈ chain, SubqueriesFit s.attributes.table s.correlation p.2)
    (hc : fold s chain = some c) : SubqueriesFit s.attributes.table s.correlation c := by
  obtain ⟨d, hd, rfl⟩ := Option.map_eq_some_iff.mp hc
  have hfit : SubqueriesFit s.attributes.table s.correlation d :=
    of_ofChain (fun _ _ => subqueriesFit_all_iff.mpr) (fun _ _ => subqueriesFit_any_iff.mpr) h hd
  exact hfit.correlate

/-- Whatever is received, a finished scope tests the attribute table in subqueries only, each of
them on that table, correlated to the entity and without a subquery inside. -/
theorem isCorrelated_of_finish {s : Schema} {calls : List Call} {c : Condition}
    (h : (receiveAll s {} calls).finish s = .ok c) :
    c.IsCorrelated s.attributes.table s.correlation := by
  rw [finish_receiveAll] at h
  obtain ⟨chain, hchain, rfl⟩ := Outcome.map_eq_ok_iff.mp h
  have hfit : ∀ p ∈ chain, SubqueriesFit s.attributes.table s.correlation p.2 := by
    refine Call.of_elements ?_ (fun _ _ => subqueriesFit_of_fold) calls hchain
    intro column q c hc
    obtain ⟨-, t, -, rfl⟩ := Predicate.condition_eq_ok_iff.mp hc
    exact subqueriesFit_ofTest column t
  cases hc : fold s chain with
  | none =>
      have hnone : SubqueriesFit s.attributes.table s.correlation (.all []) :=
        subqueriesFit_all_iff.mpr (by simp)
      refine ⟨?_, hnone⟩
      rintro d (_ | ⟨hmem, -⟩) ⟨column, -, hcolumn, -⟩
      · cases hcolumn
      · cases hmem
  | some c =>
      refine ⟨?_, subqueriesFit_of_fold hfit hc⟩
      obtain ⟨d, -, rfl⟩ := Option.map_eq_some_iff.mp hc
      intro e he htest
      have hin := he.inside_touch (inside_touch_of_isTestOn htest)
      rw [Option.getD_some, inside_touch_correlate d] at hin
      cases hin

/-- A title, or in a scope of its own: attribute tests around one on the author, and a further scope
with an attribute test and a constant. -/
def titledOrRed : List Call :=
  [.predicate .and "entries.title" (.compare .equal (.string "A")),
    .nested .or
      [.predicate .and "entry_data.data" (.compare .like (.string "red%")),
        .predicate .and "entries.author_id" (.nullness false),
        .predicate .and "entry_data.id" (.compare .equal (.string "7")),
        .nested .and
          [.predicate .and "entry_data.id" (.nullness true),
            .predicate .or "entry_data.data" (.membership true (.array []))]]]

/-- The attribute tests of a scope share a subquery; the inner scope has its own. -/
theorem isCorrelated_titledOrRed :
    ∃ c, (receiveAll .default {} titledOrRed).finish .default = .ok c ∧
      c = .any
        [.compare "entries.title" .equal (.string "A"),
          .all
            [.existsRow "entry_data" "entry_data.entry_id = entries.id"
              (.all [.compare "entry_data.data" .like (.string "red%"),
                .compare "entry_data.id" .equal (.string "7")]),
              .nullness "entries.author_id" false,
              .existsRow "entry_data" "entry_data.entry_id = entries.id"
                (.any [.nullness "entry_data.id" true, .always])]] ∧
      c.IsCorrelated Schema.default.attributes.table Schema.default.correlation := by
  have htitle : Identifier.IsText "entries.title" := ⟨_, rfl⟩
  have hauthor : Identifier.IsText "entries.author_id" := ⟨_, rfl⟩
  have hdata : Identifier.IsText "entry_data.data" := ⟨_, rfl⟩
  have hid : Identifier.IsText "entry_data.id" := ⟨_, rfl⟩
  suffices h : (receiveAll .default {} titledOrRed).finish .default = .ok _ from
    ⟨_, h, rfl, isCorrelated_of_finish h⟩
  -- Evaluating the readings of the columns over and over again would be slow.
  rw [finish_receiveAll]
  simp only [titledOrRed, Call.elements, Call.element, Predicate.condition_of_isText htitle,
    Predicate.condition_of_isText hauthor, Predicate.condition_of_isText hdata,
    Predicate.condition_of_isText hid]
  rfl

end Scope

end FilterQuery
