import FilterQuery.Proofs.Scope.Elements
import FilterQuery.Proofs.Scope.Leaf

/-!
# Flat scopes

A flat scope receives leaves and no nested scope. Read row by row, it holds when one of its runs
does.

The condition of a finished scope agrees with this reading except in one case. When all tests are on
the attribute table, the disjunction of the runs is moved into one subquery as a whole, and with it
a run of constants; if the entity has no attribute row, that run is swallowed.
`Scope.truth_finish_flat_iff` states that this is the only difference.
-/

namespace FilterQuery

universe u v

variable {ε : Type u} {ρ : Type v} {s : Schema} {I : Interpretation ε ρ} {entity : ε}

namespace Leaf

/-- The runs of calls, the first of which has been read up to here. -/
def runsFrom (run : List Leaf) : List Leaf → List (List Leaf)
  | [] => [run]
  | leaf :: rest =>
    if leaf.connective.isOr then run :: runsFrom [leaf] rest else runsFrom (run ++ [leaf]) rest

/-- The runs of calls: another one starts at every call with `or` after the first call. Without
calls there is one run and it is empty. -/
def orRuns : List Leaf → List (List Leaf)
  | [] => [[]]
  | leaf :: rest => runsFrom [leaf] rest

/-- All tests are on the attribute table, there is one, and some run has true constants only. -/
structure Swallows (s : Schema) (leaves : List Leaf) : Prop where
  inside : ∃ leaf ∈ leaves, leaf.IsInside s.attributes.table
  noneOutside : ∀ leaf ∈ leaves, ¬leaf.IsOutside s.attributes.table
  constants : ∃ run ∈ orRuns leaves, ∀ leaf ∈ run, leaf.IsConstant true

/-- What a fitting leaf adds to its scope. -/
def entry (leaf : Leaf) : Connective × Condition := (leaf.connective, leaf.condition)

/-- The runs of calls and the runs of what they add are the same. -/
theorem map_runsFrom {rest front : List Leaf} {tail : List Condition}
    {others : List (List Condition)}
    (h : ∀ r c, Condition.runs ((r, c) :: rest.map entry) = (c :: tail) :: others) :
    (runsFrom front rest).map (List.map condition) = (front.map condition ++ tail) :: others := by
  induction rest generalizing front tail others with
  | nil =>
      have hruns : [[Condition.always]] = (.always :: tail) :: others := h .and .always
      obtain ⟨rfl, rfl⟩ : tail = [] ∧ others = [] := by simpa using hruns
      simp [runsFrom]
  | cons leaf rest ih =>
      obtain ⟨tail', others', hrest⟩ := Condition.exists_runs_cons (rest.map entry)
      have hruns := h .and .always
      rw [List.map_cons, entry] at hruns
      rw [runsFrom]
      cases hconnective : leaf.connective with
      | and =>
          rw [hconnective, Condition.runs_cons_and (hrest .and leaf.condition)] at hruns
          obtain ⟨rfl, rfl⟩ : leaf.condition :: tail' = tail ∧ others' = others := by
            simpa using hruns
          rw [if_neg (by simp), ih hrest]
          simp
      | or =>
          rw [hconnective, Condition.runs_cons_or, hrest] at hruns
          obtain ⟨rfl, rfl⟩ : [] = tail ∧ (leaf.condition :: tail') :: others' = others := by
            simpa using hruns
          rw [if_pos (by simp), List.map_cons, ih hrest]
          simp

theorem map_orRuns {leaves : List Leaf} (hne : leaves ≠ []) :
    (orRuns leaves).map (List.map condition) = Condition.runs (leaves.map entry) := by
  obtain ⟨first, rest, rfl⟩ := List.exists_cons_of_ne_nil hne
  obtain ⟨tail, others, h⟩ := Condition.exists_runs_cons (rest.map entry)
  rw [orRuns, map_runsFrom h]
  exact (h first.connective first.condition).symm

theorem flatten_runsFrom (run rest : List Leaf) : (runsFrom run rest).flatten = run ++ rest := by
  induction rest generalizing run with
  | nil => simp [runsFrom]
  | cons leaf rest ih =>
      rw [runsFrom]
      split
      · rw [List.flatten_cons, ih]
        simp
      · rw [ih]
        simp

@[simp] theorem flatten_orRuns (leaves : List Leaf) : (orRuns leaves).flatten = leaves := by
  cases leaves with
  | nil => rfl
  | cons first rest => exact flatten_runsFrom [first] rest

theorem mem_of_mem_orRuns {leaves run : List Leaf} {leaf : Leaf} (hrun : run ∈ orRuns leaves)
    (h : leaf ∈ run) : leaf ∈ leaves := by
  rw [← flatten_orRuns leaves]
  exact List.mem_flatten.mpr ⟨run, hrun, h⟩

theorem ne_nil_of_mem_orRuns {leaves run : List Leaf} (hne : leaves ≠ [])
    (hrun : run ∈ orRuns leaves) : run ≠ [] := by
  have hmem : run.map condition ∈ Condition.runs (leaves.map entry) := by
    rw [← map_orRuns hne]
    exact List.mem_map_of_mem hrun
  simpa using Condition.ne_nil_of_mem_runs hmem

/-- Leaves are accepted when their columns are identifiers and their values fit, and they add their
conditions. -/
theorem elements_eq_ok_iff {chain : List (Connective × Condition)} {leaves : List Leaf} :
    Call.elements s (leaves.map call) = .ok chain ↔
      (∀ leaf ∈ leaves, Identifier.IsText leaf.column ∧ leaf.Fits) ∧ chain = leaves.map entry := by
  induction leaves generalizing chain with
  | nil =>
      constructor
      · intro h
        cases h
        simp
      · rintro ⟨-, rfl⟩
        rfl
  | cons leaf rest ih =>
      constructor
      · intro h
        obtain ⟨head, hhead, h⟩ := Outcome.bind_eq_ok_iff.mp h
        obtain ⟨tail, htail, h⟩ := Outcome.bind_eq_ok_iff.mp h
        obtain ⟨hrest, rfl⟩ := ih.mp htail
        obtain ⟨c, hc, rfl⟩ := Outcome.map_eq_ok_iff.mp hhead
        obtain ⟨hcolumn, t, ht, rfl⟩ := Predicate.condition_eq_ok_iff.mp hc
        cases h
        constructor
        · exact List.forall_mem_cons.mpr ⟨⟨hcolumn, t, ht⟩, hrest⟩
        · rw [List.map_cons, entry, condition, ht]
          rfl
      · rintro ⟨h, rfl⟩
        obtain ⟨⟨hcolumn, t, ht⟩, hrest⟩ := List.forall_mem_cons.mp h
        have hcondition : leaf.predicate.condition leaf.column = .ok leaf.condition := by
          rw [Predicate.condition_of_isText hcolumn, condition, ht]
          rfl
        rw [List.map_cons, Call.elements, call, Call.element, hcondition, ih.mpr ⟨hrest, rfl⟩]
        rfl

end Leaf

namespace Scope

open Leaf

variable {leaves : List Leaf} {d : Condition}

theorem touch_of_leaves {table : String} (h : Condition.ofChain (leaves.map entry) = some d) :
    d.touch table = Condition.touchAll table (leaves.map condition) := by
  rw [Condition.touch_of_ofChain h, List.map_map]
  rfl

theorem noneEmpty_entries (leaves : List Leaf) : Condition.NoneEmpty (leaves.map entry) := by
  intro p hp
  obtain ⟨leaf, -, rfl⟩ := List.mem_map.mp hp
  exact isEmpty_condition leaf

theorem chainTruth_entries_eq_yes_iff (hne : leaves ≠ []) {around : List ρ} :
    Condition.chainTruth I entity around (leaves.map entry) = .yes ↔
      ∃ run ∈ orRuns leaves, ∀ leaf ∈ run, leaf.condition.truth I entity around = .yes := by
  rw [Condition.chainTruth_eq_yes_iff, ← map_orRuns hne]
  constructor
  · rintro ⟨_, hmem, hall⟩
    obtain ⟨run, hrun, rfl⟩ := List.mem_map.mp hmem
    exact ⟨run, hrun, List.forall_mem_map.mp hall⟩
  · rintro ⟨run, hrun, hall⟩
    exact ⟨_, List.mem_map_of_mem hrun, List.forall_mem_map.mpr hall⟩

/-- Moved as a whole, the runs look for one attribute row together. -/
theorem truth_correlate_of_isPure (hne : leaves ≠ [])
    (hd : Condition.ofChain (leaves.map entry) = some d)
    (hpure : d.isPure s.attributes.table = true) :
    (d.correlate s.attributes.table s.correlation).truth I entity [] = .yes ↔
      ∃ row ∈ I.attributeRows s entity, ∃ run ∈ orRuns leaves,
        ∀ leaf ∈ run, leaf.condition.truth I entity [row] = .yes := by
  have hempty := noneEmpty_entries leaves
  rw [Condition.correlate_of_isPure hpure, Condition.wrap,
    Condition.truth_existsRow_eq_yes_iff (Condition.isEmpty_of_ofChain hempty hd)]
  simp only [Condition.truth_of_ofChain hempty hd, chainTruth_entries_eq_yes_iff hne,
    Interpretation.mem_attributeRows_iff, and_assoc]

/-- Otherwise every run is correlated by itself. -/
theorem truth_correlate_of_not_isPure (hne : leaves ≠ []) (hfits : ∀ leaf ∈ leaves, leaf.Fits)
    (hd : Condition.ofChain (leaves.map entry) = some d)
    (hpure : d.isPure s.attributes.table = false) :
    (d.correlate s.attributes.table s.correlation).truth I entity [] = .yes ↔
      ∃ run ∈ orRuns leaves, RunHolds s I entity run := by
  have hrun : ∀ run ∈ orRuns leaves,
      ((Condition.conjunction (run.map condition)).correlate s.attributes.table
        s.correlation).truth I entity [] = .yes ↔ RunHolds s I entity run := by
    intro run hmem
    apply truth_correlate_run_iff (ne_nil_of_mem_orRuns hne hmem)
    intro leaf hleaf
    exact hfits leaf (mem_of_mem_orRuns hmem hleaf)
  rcases Condition.eq_of_ofChain hd with ⟨run', hruns, rfl⟩ | ⟨-, rfl⟩
  · rw [← map_orRuns hne] at hruns
    obtain ⟨run, hone, rfl⟩ := List.map_eq_singleton_iff.mp hruns
    rw [hrun run (by simp [hone]), hone]
    simp
  · have hempty : ∀ c ∈ (Condition.runs (leaves.map entry)).map Condition.conjunction,
        c.isEmpty = false := by
      intro c hc
      obtain ⟨run, hmem, rfl⟩ := List.mem_map.mp hc
      exact Condition.isEmpty_conjunction (Condition.ne_nil_of_mem_runs hmem)
        ((noneEmpty_entries leaves).of_mem_runs hmem)
    rw [Condition.truth_correlate_any hempty hpure, ← map_orRuns hne, Truth.any_eq_yes_iff]
    constructor
    · intro hyes
      obtain ⟨c, hc, htruth⟩ := List.mem_map.mp hyes
      obtain ⟨run', hrun', rfl⟩ := List.mem_map.mp hc
      obtain ⟨run, hmem, rfl⟩ := List.mem_map.mp hrun'
      exact ⟨run, hmem, (hrun run hmem).mp htruth⟩
    · rintro ⟨run, hmem, hholds⟩
      have htruth := (hrun run hmem).mpr hholds
      exact List.mem_map.mpr
        ⟨_, List.mem_map_of_mem (List.mem_map_of_mem hmem), htruth⟩

theorem isPure_of_leaves_iff {table : String}
    (hd : Condition.ofChain (leaves.map entry) = some d) :
    d.isPure table = true ↔
      (∃ leaf ∈ leaves, leaf.IsInside table) ∧ ¬∃ leaf ∈ leaves, leaf.IsOutside table := by
  rw [Condition.isPure, touch_of_leaves hd, Condition.Touch.isPure, Bool.and_eq_true_iff,
    inside_touchAll_run_iff, Bool.not_eq_true', ← Bool.not_eq_true, outside_touchAll_run_iff]

/-- With an attribute row at hand it makes no difference whether a run of constants asks for it. -/
theorem truth_correlate_of_isPure_iff (hne : leaves ≠ []) (hfits : ∀ leaf ∈ leaves, leaf.Fits)
    (hd : Condition.ofChain (leaves.map entry) = some d)
    (hpure : d.isPure s.attributes.table = true) :
    ((d.correlate s.attributes.table s.correlation).truth I entity [] = .yes ↔
        ∃ run ∈ orRuns leaves, RunHolds s I entity run) ↔
      ¬(I.attributeRows s entity = [] ∧ Swallows s leaves) := by
  obtain ⟨hin, hout⟩ := (isPure_of_leaves_iff hd).mp hpure
  have hfitsRun : ∀ run ∈ orRuns leaves, ∀ leaf ∈ run, leaf.Fits := fun run hrun leaf hleaf =>
    hfits leaf (mem_of_mem_orRuns hrun hleaf)
  have houtRun : ∀ run ∈ orRuns leaves, ¬∃ leaf ∈ run, leaf.IsOutside s.attributes.table := by
    rintro run hrun ⟨leaf, hleaf, hl⟩
    exact hout ⟨leaf, mem_of_mem_orRuns hrun hleaf, hl⟩
  rw [truth_correlate_of_isPure hne hd hpure]
  constructor
  · rintro hiff ⟨hrows, hswallows⟩
    obtain ⟨run, hrun, hconstant⟩ := hswallows.constants
    obtain ⟨row, hrow, -⟩ := hiff.mpr ⟨run, hrun, runHolds_of_constants hconstant⟩
    rw [hrows] at hrow
    cases hrow
  · intro hnot
    constructor
    · rintro ⟨row, hrow, run, hrun, htruth⟩
      exact ⟨run, hrun, runHolds_of_row (hfitsRun run hrun) (houtRun run hrun) hrow htruth⟩
    · rintro ⟨run, hrun, hholds⟩
      rcases hholds.exists_row (hfitsRun run hrun) (houtRun run hrun) with
        ⟨row, hrow, htruth⟩ | hconstant
      · exact ⟨row, hrow, run, hrun, htruth⟩
      · cases hrows : I.attributeRows s entity with
        | nil =>
            have hswallows : Swallows s leaves :=
              { inside := hin
                noneOutside := fun leaf hleaf h => hout ⟨leaf, hleaf, h⟩
                constants := ⟨run, hrun, hconstant⟩ }
            exact absurd ⟨hrows, hswallows⟩ hnot
        | cons row rows =>
            refine ⟨row, by simp, run, hrun, ?_⟩
            intro leaf hleaf
            exact (hconstant leaf hleaf).truth_condition [row]

/-- A flat scope finishes when every leaf is accepted. -/
theorem finish_flat_eq_ok_iff {c : Condition} :
    (receiveAll s {} (leaves.map call)).finish s = .ok c ↔
      (∀ leaf ∈ leaves, Identifier.IsText leaf.column ∧ leaf.Fits) ∧
        (fold s (leaves.map entry)).getD (.all []) = c := by
  rw [finish_receiveAll, Outcome.map_eq_ok_iff]
  simp only [elements_eq_ok_iff, and_assoc]
  constructor
  · rintro ⟨chain, haccepted, rfl, rfl⟩
    exact ⟨haccepted, rfl⟩
  · rintro ⟨haccepted, rfl⟩
    exact ⟨_, haccepted, rfl, rfl⟩

/-- A finished flat scope holds exactly when one of its runs does, except that it swallows a run of
constants when all tests are on the attribute table and the entity has no attribute row. -/
theorem truth_finish_flat_iff {c : Condition}
    (h : (receiveAll s {} (leaves.map call)).finish s = .ok c) (I : Interpretation ε ρ)
    (entity : ε) :
    (c.truth I entity [] = .yes ↔ ∃ run ∈ orRuns leaves, RunHolds s I entity run) ↔
      ¬(I.attributeRows s entity = [] ∧ Swallows s leaves) := by
  obtain ⟨haccepted, rfl⟩ := finish_flat_eq_ok_iff.mp h
  have hfits : ∀ leaf ∈ leaves, leaf.Fits := fun leaf hleaf => (haccepted leaf hleaf).2
  cases hd : Condition.ofChain (leaves.map entry) with
  | none =>
      have hnil : leaves = [] := by simpa using Condition.ofChain_eq_none_iff.mp hd
      subst hnil
      have hholds : RunHolds s I entity [] :=
        { constants := by simp
          outside := by simp
          inside := by simp }
      constructor
      · rintro - ⟨-, hswallows⟩
        obtain ⟨leaf, hleaf, -⟩ := hswallows.inside
        cases hleaf
      · intro
        exact ⟨fun _ => ⟨[], by simp [orRuns], hholds⟩, fun _ => rfl⟩
  | some d =>
      have hne : leaves ≠ [] := by
        rintro rfl
        cases hd
      rw [fold, hd, Option.map_some, Option.getD_some]
      cases hpure : d.isPure s.attributes.table with
      | false =>
          rw [truth_correlate_of_not_isPure hne hfits hd hpure]
          constructor
          · rintro - ⟨-, hswallows⟩
            have hd' := (isPure_of_leaves_iff hd).mpr ⟨hswallows.inside, fun ⟨leaf, hleaf, h⟩ =>
              hswallows.noneOutside leaf hleaf h⟩
            rw [hpure] at hd'
            cases hd'
          · intro
            exact Iff.rfl
      | true => exact truth_correlate_of_isPure_iff hne hfits hd hpure

/-- Every entity, since nothing is in the empty list; or those with a calm attribute. -/
def everyOrCalm : List Leaf :=
  [⟨.and, "entries.id", .membership true (.array [])⟩,
    ⟨.or, "entry_data.data", .compare .equal (.string "calm")⟩]

theorem finish_everyOrCalm :
    (receiveAll .default {} (everyOrCalm.map call)).finish .default =
      .ok (.existsRow "entry_data" "entry_data.entry_id = entries.id"
        (.any [.always, .compare "entry_data.data" .equal (.string "calm")])) := by
  rw [finish_flat_eq_ok_iff]
  refine ⟨?_, rfl⟩
  rw [everyOrCalm, List.forall_mem_cons, List.forall_mem_singleton]
  exact ⟨⟨⟨_, rfl⟩, ⟨_, rfl⟩⟩, ⟨⟨_, rfl⟩, ⟨_, rfl⟩⟩⟩

/-- With an attribute row at hand, the condition and the runs agree. -/
theorem truth_finish_flat_of_row :
    (receiveAll .default {} (everyOrCalm.map call)).finish .default =
      .ok (.existsRow "entry_data" "entry_data.entry_id = entries.id"
        (.any [.always, .compare "entry_data.data" .equal (.string "calm")])) ∧
    ((Condition.existsRow "entry_data" "entry_data.entry_id = entries.id"
        (.any [.always, .compare "entry_data.data" .equal (.string "calm")])).truth
          (.ofTexts [[("entry_data.data", "loud")]]) [] [] = .yes ↔
      ∃ run ∈ orRuns everyOrCalm,
        RunHolds .default (.ofTexts [[("entry_data.data", "loud")]]) [] run) :=
  ⟨finish_everyOrCalm,
    (truth_finish_flat_iff finish_everyOrCalm _ _).mpr fun h => List.cons_ne_nil _ _ h.1⟩

/-- Without an attribute row, the run of constants still holds but the condition does not. -/
theorem swallowed_run :
    (receiveAll .default {} (everyOrCalm.map call)).finish .default =
      .ok (.existsRow "entry_data" "entry_data.entry_id = entries.id"
        (.any [.always, .compare "entry_data.data" .equal (.string "calm")])) ∧
    (Condition.existsRow "entry_data" "entry_data.entry_id = entries.id"
        (.any [.always, .compare "entry_data.data" .equal (.string "calm")])).truth
          (.ofTexts []) [] [] = .no ∧
    ∃ run ∈ orRuns everyOrCalm, RunHolds .default (.ofTexts []) [] run := by
  refine ⟨finish_everyOrCalm, rfl, [⟨.and, "entries.id", .membership true (.array [])⟩],
    List.mem_cons_self, ?_⟩
  apply runHolds_of_constants
  intro leaf hleaf
  rw [List.mem_singleton.mp hleaf]
  exact ⟨_, rfl, rfl⟩

end Scope

end FilterQuery
