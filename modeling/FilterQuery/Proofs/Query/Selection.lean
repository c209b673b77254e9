import FilterQuery.Proofs.Condition.Text
import FilterQuery.Proofs.Query.Grouping
import FilterQuery.Proofs.Query.Outline

/-!
# What one more filter selects

A query that builds has a condition, and its statement has a `WHERE` clause when the condition is
not empty. One more filter continues the chain of the filters before it. Attached with `and` it is
one more requirement of the last run, so it never selects an entity that was not selected before;
attached with `or` it is a run of its own, so no entity is lost.
-/

namespace FilterQuery

open Sql Condition

universe u v

/-- A clause that a resolver made from items and whose connective was then set to what texts
name. -/
inductive Clause.FromItems (resolver : Resolver) : Clause → Prop
  | root (items : List Item) {c : Clause} (made : ofItems resolver items = .ok c) :
      FromItems resolver c
  | attached {c d : Clause} (text : String) (made : FromItems resolver c)
      (set : c.setConnective text = .ok d) : FromItems resolver d

/-- Such a clause is the group of some filters. -/
theorem Clause.FromItems.exists_filters {resolver : Resolver} {c : Clause}
    (h : FromItems resolver c) : ∃ fs, c = group c.connective (Filter.clauses resolver fs) := by
  induction h with
  | root items made =>
      obtain ⟨fs, -, rfl⟩ := ofItems_eq_ok_iff.mp made
      exact ⟨fs, rfl⟩
  | attached text made set ih =>
      obtain ⟨fs, hfs⟩ := ih
      obtain ⟨r, -, hr⟩ := Outcome.bind_eq_ok_iff.mp set
      cases hr
      rw [hfs]
      exact ⟨fs, rfl⟩

namespace Filter

variable {s : Schema} {resolver : Resolver}

theorem clauses_append (fs gs : List Filter) :
    clauses resolver (fs ++ gs) = clauses resolver fs ++ clauses resolver gs := by
  induction fs with
  | nil => rfl
  | cons f rest ih => rw [List.cons_append, clauses, clauses, ih, List.cons_append]

/-- Clauses made from items are the clauses of filters. -/
theorem exists_clauses_eq {cs : List Clause} (h : ∀ c ∈ cs, c.FromItems resolver) :
    ∃ fs, cs = clauses resolver fs := by
  induction cs with
  | nil => exact ⟨[], rfl⟩
  | cons c rest ih =>
      obtain ⟨fs, hfs⟩ := (h c (by simp)).exists_filters
      obtain ⟨gs, hgs⟩ := ih fun d hd => h d (by simp [hd])
      refine ⟨.group c.connective fs :: gs, ?_⟩
      rw [clauses, clause, ← hfs, ← hgs]

/-- A filter behind others adds its part to their chain. -/
theorem chain_append_singleton_eq_ok_iff {fs : List Filter} {f : Filter}
    {ch : List (Connective × Condition)} :
    chain s (fs ++ [f]) = .ok ch ↔
      ∃ before part, chain s fs = .ok before ∧ element s f = .ok part ∧
        ch = before ++ part.toList := by
  induction fs generalizing ch with
  | nil =>
      cases hf : element s f with
      | error e => simp [chain, hf, bind, Except.bind]
      | ok part => simp [chain, hf, bind, Except.bind, pure, Except.pure, eq_comm]
  | cons g rest ih =>
      rw [List.cons_append, chain, chain]
      constructor
      · intro h
        obtain ⟨head, hhead, h⟩ := Outcome.bind_eq_ok_iff.mp h
        obtain ⟨tail, htail, h⟩ := Outcome.bind_eq_ok_iff.mp h
        obtain ⟨before, part, hbefore, hpart, rfl⟩ := ih.mp htail
        cases h
        refine ⟨head.toList ++ before, part, ?_, hpart, (List.append_assoc _ _ _).symm⟩
        rw [hhead, hbefore]
        rfl
      · rintro ⟨before, part, hbefore, hpart, rfl⟩
        obtain ⟨head, hhead, h⟩ := Outcome.bind_eq_ok_iff.mp hbefore
        obtain ⟨tail, htail, h⟩ := Outcome.bind_eq_ok_iff.mp h
        cases h
        rw [hhead, ih.mpr ⟨tail, part, htail, hpart, rfl⟩]
        exact congrArg Except.ok (List.append_assoc _ _ _).symm

/-- What a filter adds attaches as the filter does. -/
theorem connective_of_element {r : Connective} {fs : List Filter}
    {p : Connective × Condition} (h : element s (.group r fs) = .ok (some p)) : p.1 = r := by
  obtain ⟨ch, -, hp⟩ := Outcome.map_eq_ok_iff.mp h
  obtain ⟨c, -, rfl⟩ := Option.map_eq_some_iff.mp hp
  rfl

end Filter

namespace Query

variable {q : Query}

/-- The query builds, and its statement has the condition behind `WHERE`. -/
structure SelectsWhere (q : Query) (c : Condition) : Prop where
  condition : q.condition = .ok c
  nonempty : c.isEmpty = false
  build : ∃ columns, q.columnList = .ok columns ∧
    q.build = .ok
      { text := "SELECT " ++ columns ++ " FROM " ++ q.schema.entity.table ++ " WHERE " ++
          c.toSql.text ++ windowPart "LIMIT" q.limit ++ windowPart "OFFSET" q.offset
        values := c.toSql.values }

/-- A query builds when its columns are identifiers, its schema is valid and its clauses have a
condition. -/
theorem exists_build_iff :
    (∃ st, q.build = .ok st) ↔
      (∃ columns, q.columnList = .ok columns) ∧ q.schema.IsValid ∧ ∃ c, q.condition = .ok c := by
  constructor
  · rintro ⟨st, hst⟩
    obtain ⟨columns, hcolumns, h⟩ := Outcome.bind_eq_ok_iff.mp hst
    obtain ⟨s, hs, -⟩ := Outcome.bind_eq_ok_iff.mp h
    obtain ⟨_, hvalid, h⟩ := Outcome.bind_eq_ok_iff.mp hs
    obtain ⟨c, hc, -⟩ := Outcome.bind_eq_ok_iff.mp h
    exact ⟨⟨columns, hcolumns⟩, hvalid, c, hc⟩
  · rintro ⟨⟨columns, hcolumns⟩, hvalid, c, hc⟩
    rw [build_eq hvalid hcolumns, hc]
    exact ⟨_, rfl⟩

/-- A query that builds has a `WHERE` clause when its condition is not empty. -/
theorem selectsWhere_of_build (hbuild : ∃ st, q.build = .ok st) {c : Condition}
    (hc : q.condition = .ok c) (hnonempty : c.isEmpty = false) : q.SelectsWhere c := by
  obtain ⟨⟨columns, hcolumns⟩, hvalid, -⟩ := exists_build_iff.mp hbuild
  refine ⟨hc, hnonempty, columns, hcolumns, ?_⟩
  have htemplate : c.template.isEmpty = false := (isEmpty_template c).trans hnonempty
  rw [build_eq hvalid hcolumns, hc]
  change Except.ok (q.statement columns c) = _
  rw [statement, template, htemplate, if_neg Bool.false_ne_true, Template.toStatement,
    Template.print_append, Template.values_append]
  simp [Template.text, Template.print, Template.values, toSql, Template.toStatement]

section Filters

variable {fs : List Filter} {ch : List (Connective × Condition)} {c : Condition}

/-- Clauses of filters have the condition of the chain of the filters. -/
theorem condition_of_filters (h : q.schema.Checked)
    (hq : q.clauses = Filter.clauses q.schema.resolver fs) :
    q.condition =
      (Filter.chain q.schema fs).map fun chain => (ofChain chain).getD (.all []) := by
  rw [condition, ← Clause.compile_group .and, hq, Clause.compile_clauses h]

/-- The condition of a query that builds is that of a chain. -/
theorem exists_chain_of_condition (h : q.schema.Checked)
    (hq : q.clauses = Filter.clauses q.schema.resolver fs) (hc : q.condition = .ok c) :
    ∃ ch, Filter.chain q.schema fs = .ok ch ∧ (ofChain ch).getD (.all []) = c :=
  Outcome.map_eq_ok_iff.mp ((condition_of_filters h hq).symm.trans hc)

/-- The condition of a chain of filters that is not empty is not empty, and says what the chain
says. -/
theorem truth_of_chain (hch : Filter.chain q.schema fs = .ok ch) (hne : ch ≠ [])
    (hc : (ofChain ch).getD (.all []) = c) :
    c.isEmpty = false ∧ ∀ {ε : Type u} {ρ : Type v} (I : Interpretation ε ρ) (entity : ε),
      c.truth I entity [] = chainTruth I entity [] ch := by
  have hempty : NoneEmpty ch := fun p hp => (Filter.settled_of_chain fs hch p hp).nonempty
  cases hof : ofChain ch with
  | none => exact absurd (ofChain_eq_none_iff.mp hof) hne
  | some d =>
      rw [hof] at hc
      cases hc
      exact ⟨isEmpty_of_ofChain hempty hof, fun I entity => truth_of_ofChain hempty hof⟩

end Filters

/-- One more filter that attaches with `and` selects no entity that was not selected before, and one
that attaches with `or` loses none. -/
theorem selectsWhere_filter {ε : Type u} {ρ : Type v} {f : Clause} {c : Condition}
    (hq : ∀ g ∈ q.clauses, g.FromItems q.schema.resolver) (hf : f.FromItems q.schema.resolver)
    (hc : q.SelectsWhere c) (hbuild : ∃ st, (q.filter f).build = .ok st)
    (I : Interpretation ε ρ) :
    ∃ d, (q.filter f).SelectsWhere d ∧
      (f.connective = .and →
        ∀ entity, d.truth I entity [] = .yes → c.truth I entity [] = .yes) ∧
      (f.connective = .or →
        ∀ entity, c.truth I entity [] = .yes → d.truth I entity [] = .yes) := by
  obtain ⟨-, hvalid, d, hd⟩ := exists_build_iff.mp hbuild
  have hchecked : q.schema.Checked := Schema.IsValid.checked hvalid
  obtain ⟨gs, hgs⟩ := Filter.exists_clauses_eq hq
  obtain ⟨fs, hfs⟩ := hf.exists_filters
  have hclauses : (q.filter f).clauses =
      Filter.clauses (q.filter f).schema.resolver (gs ++ [.group f.connective fs]) := by
    rw [Filter.clauses_append, Filter.clauses, Filter.clauses, Filter.clause, filter, hgs]
    exact congrArg (fun g => Filter.clauses q.schema.resolver gs ++ [g]) hfs
  -- both conditions are those of chains, and the second chain has at most one more element
  obtain ⟨before, hbefore, hcbefore⟩ := exists_chain_of_condition hchecked hgs hc.condition
  obtain ⟨after, hafter, hdafter⟩ :=
    exists_chain_of_condition (q := q.filter f) hchecked hclauses hd
  have hne : before ≠ [] := by
    rintro rfl
    cases hcbefore
    cases hc.nonempty
  obtain ⟨front, part, hfront, hpart, rfl⟩ := Filter.chain_append_singleton_eq_ok_iff.mp hafter
  cases hbefore.symm.trans hfront
  obtain ⟨-, hctruth⟩ := truth_of_chain hbefore hne hcbefore
  obtain ⟨hdnonempty, hdtruth⟩ := truth_of_chain hafter (by simp [hne]) hdafter
  refine ⟨d, selectsWhere_of_build hbuild hd hdnonempty, ?_, ?_⟩
  · intro hand entity hyes
    rw [hdtruth] at hyes
    rw [hctruth]
    cases part with
    | none => simpa using hyes
    | some p =>
        obtain ⟨r, e⟩ := p
        cases (Filter.connective_of_element hpart).trans hand
        exact chainTruth_of_append_and hne hyes
  · intro hor entity hyes
    rw [hctruth] at hyes
    rw [hdtruth]
    cases part with
    | none => simpa using hyes
    | some p =>
        obtain ⟨r, e⟩ := p
        cases (Filter.connective_of_element hpart).trans hor
        exact (chainTruth_append_or_eq_yes_iff before e).mpr (.inl hyes)

/-- The clause of a title, and the clause of a mood that attaches with `or`. -/
def titledOrCalm : Clause × Clause :=
  ((Filter.group .and [.leaf .and "title" .equal (.string "A")]).clause Schema.default.resolver,
    (Filter.group .or [.leaf .and "mood" .equal (.string "calm")]).clause Schema.default.resolver)

/-- An entity with the title is still selected when a mood would do as well. -/
theorem selectsWhere_filter_titledOrCalm :
    ∃ c d, (∀ g ∈ [titledOrCalm.1], g.FromItems Schema.default.resolver) ∧
      titledOrCalm.2.FromItems Schema.default.resolver ∧
      (Query.filter {} titledOrCalm.1).SelectsWhere c ∧
      ((Query.filter {} titledOrCalm.1).filter titledOrCalm.2).SelectsWhere d ∧
      c.truth (.ofTexts []) [("entries.title", "A")] [] = .yes ∧
      d.truth (.ofTexts []) [("entries.title", "A")] [] = .yes := by
  have htitle : titledOrCalm.1.FromItems Schema.default.resolver :=
    .root [.test "title" (.string "A")] rfl
  have hmood : titledOrCalm.2.FromItems Schema.default.resolver :=
    .attached "OR" (.root [.test "mood" (.string "calm")] rfl) rfl
  have hclauses : ∀ g ∈ [titledOrCalm.1], g.FromItems Schema.default.resolver := by
    simpa using htitle
  have hvalid := Schema.hasPlainTables_default.valid
  have hchecked := hvalid.checked
  have hfilter : (Query.filter {} titledOrCalm.1).clauses =
      Filter.clauses Schema.default.resolver
        [.group .and [.leaf .and "title" .equal (.string "A")]] := rfl
  have hfilters : ((Query.filter {} titledOrCalm.1).filter titledOrCalm.2).clauses =
      Filter.clauses Schema.default.resolver
        [.group .and [.leaf .and "title" .equal (.string "A")],
          .group .or [.leaf .and "mood" .equal (.string "calm")]] := rfl
  have hc : (Query.filter {} titledOrCalm.1).condition =
      .ok (.compare "entries.title" .equal (.string "A")) :=
    (condition_of_filters hchecked hfilter).trans rfl
  have hd : ((Query.filter {} titledOrCalm.1).filter titledOrCalm.2).condition = .ok _ :=
    (condition_of_filters hchecked hfilters).trans rfl
  have hbuild : ∃ st, (Query.filter {} titledOrCalm.1).build = .ok st :=
    exists_build_iff.mpr ⟨⟨_, rfl⟩, hvalid, _, hc⟩
  have hbuild' : ∃ st, ((Query.filter {} titledOrCalm.1).filter titledOrCalm.2).build = .ok st :=
    exists_build_iff.mpr ⟨⟨_, rfl⟩, hvalid, _, hd⟩
  have hwhere := selectsWhere_of_build hbuild hc rfl
  obtain ⟨d, hwhere', -, hor⟩ := selectsWhere_filter (q := Query.filter {} titledOrCalm.1)
    hclauses hmood hwhere hbuild' (.ofTexts [])
  have hyes : (Condition.compare "entries.title" .equal (.string "A")).truth (.ofTexts [])
      [("entries.title", "A")] [] = .yes := rfl
  exact ⟨_, d, hclauses, hmood, hwhere, hwhere', hyes, hor rfl _ hyes⟩

end Query

end FilterQuery
