import FilterQuery.Proofs.Filter.Meaning
import FilterQuery.Proofs.Scope.NormalForm

/-!
# Reading calls directly

Calls can be read without a condition in between. A predicate says what its test says about the
entity. The calls of a scope are read from the left, `and` binding tighter than `or`, and a nested
scope counts as one of them; a scope in which nothing is said is left out, together with the word
that attaches it.

As long as no call is about a column of the attribute table, a finished scope says what its calls
say: nothing moves into a subquery, and folding the chain of a scope agrees with reading it.
-/

namespace FilterQuery

open Condition

universe u v

variable {ε : Type u} {ρ : Type v}

namespace Call

mutual

/-- What a call says to its scope, if anything. -/
def value (I : Interpretation ε ρ) (entity : ε) : Call → Except Error (Option (Connective × Truth))
  | predicate r column p => p.test.map fun t => some (r, I.truth entity [] column t)
  | nested r calls =>
    (values I entity calls).map fun vs => (Truth.siblings? vs).map fun t => (r, t)

/-- What calls say, one after the other. -/
def values (I : Interpretation ε ρ) (entity : ε) :
    List Call → Except Error (List (Connective × Truth))
  | [] => .ok []
  | call :: rest => do
    let head ← value I entity call
    let tail ← values I entity rest
    return head.toList ++ tail

end

/-- The direct reading of a scope: what its calls say together. If they say nothing, every entity
passes. -/
def reading (I : Interpretation ε ρ) (entity : ε) (calls : List Call) : Except Error Truth :=
  (values I entity calls).map fun vs => (Truth.siblings? vs).getD .yes

/-- The call asks for no predicate on a column of the table. -/
def Avoids (table : String) (call : Call) : Prop :=
  ∀ rest : String, ¬call.Tests (table ++ "." ++ rest)

variable {s : Schema} {I : Interpretation ε ρ} {entity : ε}

theorem avoids_nested_iff {table : String} {r : Connective} {calls : List Call} :
    (nested r calls).Avoids table ↔ ∀ call ∈ calls, call.Avoids table := by
  constructor
  · intro h call hcall rest htests
    exact h rest (.nested hcall htests)
  · rintro h rest (_ | ⟨hcall, htests⟩)
    exact h _ hcall rest htests

theorem avoids_predicate_iff {table column : String} {r : Connective} {p : Predicate} :
    (predicate r column p).Avoids table ↔ Clause.isColumnOf table column = false := by
  rw [← Bool.not_eq_true, Clause.isColumnOf_iff]
  constructor
  · rintro h ⟨rest, rfl⟩
    exact h rest .predicate
  · intro h rest htests
    cases htests
    exact h ⟨rest, rfl⟩

/-- A predicate on another column is not touched by correlation. -/
theorem settled_of_avoids {r : Connective} {column : String} {p : Predicate} {c : Condition}
    (h : (predicate r column p).Avoids s.attributes.table) (hc : p.condition column = .ok c) :
    s.Settled c := by
  obtain ⟨-, t, -, rfl⟩ := Predicate.condition_eq_ok_iff.mp hc
  refine ⟨isEmpty_ofTest column t, ?_⟩
  rw [touch_ofTest]
  split
  · rfl
  · exact avoids_predicate_iff.mp h

mutual

/-- A call says what the condition that it adds says. -/
theorem value_eq : (call : Call) → call.Avoids s.attributes.table →
    {part : Option (Connective × Condition)} → element s call = .ok part →
    value I entity call = .ok (part.map fun p => (p.1, p.2.truth I entity [])) ∧
      ∀ p ∈ part, s.Settled p.2
  | .predicate r column p, havoids, part, h => by
      obtain ⟨c, hc, rfl⟩ := Outcome.map_eq_ok_iff.mp h
      refine ⟨?_, ?_⟩
      · obtain ⟨-, t, ht, rfl⟩ := Predicate.condition_eq_ok_iff.mp hc
        rw [value, ht, Option.map_some, truth_ofTest]
        rfl
      · rintro _ ⟨⟩
        exact settled_of_avoids havoids hc
  | .nested r calls, havoids, part, h => by
      obtain ⟨chain, hchain, rfl⟩ := Outcome.map_eq_ok_iff.mp h
      obtain ⟨hvalues, hsettled⟩ := values_eq calls (avoids_nested_iff.mp havoids) hchain
      have hempty : NoneEmpty chain := fun p hp => (hsettled p hp).nonempty
      rw [Schema.fold_eq hsettled]
      refine ⟨?_, ?_⟩
      · rw [value, hvalues]
        change Except.ok ((Truth.siblings? _).map _) = _
        rw [siblings?_eq hempty, Option.map_map, Option.map_map]
        rfl
      · intro p hp
        obtain ⟨c, hc, rfl⟩ := Option.map_eq_some_iff.mp hp
        exact Schema.settled_ofChain hsettled hc

theorem values_eq : (calls : List Call) → (∀ call ∈ calls, call.Avoids s.attributes.table) →
    {chain : List (Connective × Condition)} → elements s calls = .ok chain →
    values I entity calls = .ok (chain.map fun p => (p.1, p.2.truth I entity [])) ∧
      ∀ p ∈ chain, s.Settled p.2
  | [], _, chain, h => by
      cases h
      exact ⟨rfl, by simp⟩
  | call :: rest, havoids, chain, h => by
      obtain ⟨head, hhead, h⟩ := Outcome.bind_eq_ok_iff.mp h
      obtain ⟨tail, htail, h⟩ := Outcome.bind_eq_ok_iff.mp h
      cases h
      obtain ⟨hcall, hrest⟩ := List.forall_mem_cons.mp havoids
      obtain ⟨hvalue, hsettled⟩ := value_eq call hcall hhead
      obtain ⟨hvalues, hsettleds⟩ := values_eq rest hrest htail
      refine ⟨?_, ?_⟩
      · rw [values, hvalue, hvalues, List.map_append]
        cases head with
        | none => rfl
        | some p => rfl
      · intro p hp
        rcases List.mem_append.mp hp with hp | hp
        · exact hsettled p (Option.mem_toList.mp hp)
        · exact hsettleds p hp

end

end Call

/-- A finished scope says what its calls say, provided that none of them is about the attribute
table. -/
theorem Scope.reading_of_finish {s : Schema} {calls : List Call} {c : Condition}
    (h : (receiveAll s {} calls).finish s = .ok c)
    (havoids : ∀ call ∈ calls, call.Avoids s.attributes.table) (I : Interpretation ε ρ)
    (entity : ε) : Call.reading I entity calls = .ok (c.truth I entity []) := by
  rw [finish_receiveAll] at h
  obtain ⟨chain, hchain, rfl⟩ := Outcome.map_eq_ok_iff.mp h
  obtain ⟨hvalues, hsettled⟩ :
      Call.values I entity calls = .ok (chain.map fun p => (p.1, p.2.truth I entity [])) ∧
        ∀ p ∈ chain, s.Settled p.2 :=
    Call.values_eq calls havoids hchain
  have hempty : NoneEmpty chain := fun p hp => (hsettled p hp).nonempty
  rw [Schema.fold_eq hsettled, Call.reading, hvalues]
  change Except.ok ((Truth.siblings? _).getD _) = _
  rw [siblings?_eq hempty]
  cases ofChain chain with
  | none => rfl
  | some d => rfl

/-- An empty scope; a title; a scope that holds nothing but an empty one; an author; and in a scope
of their own a constant and a test that no text decides. -/
def Scope.titledByAuthor : List Call :=
  [.nested .or [],
    .predicate .or "entries.title" (.compare .equal (.string "A")),
    .nested .or [.nested .and []],
    .predicate .and "entries.author_id" (.compare .equal (.string "7")),
    .nested .or
      [.predicate .or "entries.id" (.membership true (.array [])),
        .predicate .and "entries.route" (.nullness true)]]

/-- The author is a second requirement beside the title, whatever the empty scope between them says.
Another author leaves the scope at the end to decide, and this is unknown. -/
theorem Scope.reading_of_finish_titledByAuthor :
    ∃ c, (receiveAll .default {} titledByAuthor).finish .default = .ok c ∧
      (∀ call ∈ titledByAuthor, call.Avoids Schema.default.attributes.table) ∧
      c.truth (.ofTexts []) [("entries.title", "A"), ("entries.author_id", "8")] [] =
        .unknown := by
  have htitle : Identifier.IsText "entries.title" := ⟨_, rfl⟩
  have hauthor : Identifier.IsText "entries.author_id" := ⟨_, rfl⟩
  have hid : Identifier.IsText "entries.id" := ⟨_, rfl⟩
  have hroute : Identifier.IsText "entries.route" := ⟨_, rfl⟩
  have hfinish : (receiveAll .default {} titledByAuthor).finish .default =
      .ok (.any
        [.all [.compare "entries.title" .equal (.string "A"),
            .compare "entries.author_id" .equal (.string "7")],
          .all [.always, .nullness "entries.route" true]]) := by
    rw [finish_receiveAll]
    simp only [titledByAuthor, Call.elements, Call.element, Predicate.condition_of_isText htitle,
      Predicate.condition_of_isText hauthor, Predicate.condition_of_isText hid,
      Predicate.condition_of_isText hroute]
    rfl
  have havoids : ∀ call ∈ titledByAuthor, call.Avoids Schema.default.attributes.table := by
    simp only [titledByAuthor, List.forall_mem_cons, Call.avoids_nested_iff,
      Call.avoids_predicate_iff, List.not_mem_nil, false_implies, implies_true, and_true, true_and]
    exact ⟨rfl, rfl, rfl, rfl⟩
  refine ⟨_, hfinish, havoids, ?_⟩
  have hreading := reading_of_finish hfinish havoids (.ofTexts [])
    [("entries.title", "A"), ("entries.author_id", "8")]
  exact Except.ok.inj (hreading.symm.trans rfl)

end FilterQuery
