import FilterQuery.Proofs.Condition.Meaning

/-!
# The truth of a chain

A chain is split into runs. Its condition is true when every condition of some run is, and in
general has the value of its runs taken together: within a run with `and`, between runs with `or`.
A chain that goes on with `or` has one more run; one that goes on with `and` has a longer last run.
-/

namespace FilterQuery.Condition

universe u v

variable {ε : Type u} {ρ : Type v} {I : Interpretation ε ρ} {entity : ε} {around : List ρ}

theorem runs_cons_or (r : Connective) (c d : Condition) (rest : List (Connective × Condition)) :
    runs ((r, c) :: (.or, d) :: rest) = [c] :: runs ((.or, d) :: rest) := rfl

theorem runs_cons_and {r : Connective} {c d : Condition} {rest : List (Connective × Condition)}
    {run : List Condition} {others : List (List Condition)}
    (h : runs ((.and, d) :: rest) = run :: others) :
    runs ((r, c) :: (.and, d) :: rest) = (c :: run) :: others := by
  rw [runs.eq_def]
  dsimp only
  rw [h]

/-- The first run grows by the element in front of it. What connects the first element does not
matter. -/
theorem exists_runs_cons (rest : List (Connective × Condition)) :
    ∃ run others, ∀ r c, runs ((r, c) :: rest) = (c :: run) :: others := by
  induction rest with
  | nil => exact ⟨[], [], fun r c => rfl⟩
  | cons head rest ih =>
      obtain ⟨r', d⟩ := head
      obtain ⟨run, others, h⟩ := ih
      cases r' with
      | and => exact ⟨d :: run, others, fun r c => runs_cons_and (h .and d)⟩
      | or =>
          refine ⟨[], (d :: run) :: others, ?_⟩
          intro r c
          rw [runs_cons_or, h]

theorem ne_nil_of_mem_runs {chain : List (Connective × Condition)} {run : List Condition}
    (h : run ∈ runs chain) : run ≠ [] := by
  induction chain generalizing run with
  | nil => simp [runs] at h
  | cons head rest ih =>
      obtain ⟨r, c⟩ := head
      cases rest with
      | nil =>
          have hrun : run = [c] := by simpa [runs] using h
          simp [hrun]
      | cons next rest =>
          obtain ⟨r', d⟩ := next
          cases r' with
          | and =>
              obtain ⟨first, others, hr⟩ := exists_runs_cons rest
              rw [runs_cons_and (hr .and d)] at h
              rcases List.mem_cons.mp h with rfl | hmem
              · simp
              · exact ih (by rw [hr]; exact List.mem_cons_of_mem _ hmem)
          | or =>
              rw [runs_cons_or] at h
              rcases List.mem_cons.mp h with rfl | hmem
              · simp
              · exact ih hmem

theorem mem_of_mem_runs {chain : List (Connective × Condition)} {run : List Condition}
    {c : Condition} (h : run ∈ runs chain) (hc : c ∈ run) : ∃ r, (r, c) ∈ chain := by
  have hmem : c ∈ (runs chain).flatten := List.mem_flatten.mpr ⟨run, h, hc⟩
  rw [flatten_runs] at hmem
  simpa using hmem

/-- What a chain says: some run holds, a run holding when all of it does. -/
def chainTruth (I : Interpretation ε ρ) (entity : ε) (around : List ρ)
    (chain : List (Connective × Condition)) : Truth :=
  .any ((runs chain).map fun run => .all (run.map (truth I entity around)))

/-- No condition of the chain is empty. -/
def NoneEmpty (chain : List (Connective × Condition)) : Prop := ∀ p ∈ chain, p.2.isEmpty = false

theorem isEmpty_conjunction {run : List Condition} (hne : run ≠ [])
    (h : ∀ c ∈ run, c.isEmpty = false) : (conjunction run).isEmpty = false := by
  obtain ⟨c, rest, rfl⟩ := List.exists_cons_of_ne_nil hne
  have hc : c.isEmpty = false := h c (by simp)
  cases rest with
  | nil => exact hc
  | cons d rest => simp [conjunction, isEmpty, areEmpty, hc]

theorem truth_conjunction {run : List Condition} (hne : run ≠ [])
    (h : ∀ c ∈ run, c.isEmpty = false) :
    (conjunction run).truth I entity around = .all (run.map (truth I entity around)) := by
  obtain ⟨c, rest, rfl⟩ := List.exists_cons_of_ne_nil hne
  cases rest with
  | nil => simp [conjunction]
  | cons d rest => rw [conjunction, truth, truths_eq_map h]; simp

theorem ofChain_eq_none_iff {chain : List (Connective × Condition)} :
    ofChain chain = none ↔ chain = [] := by
  cases chain with
  | nil => simp
  | cons head rest =>
      obtain ⟨run, others, h⟩ := exists_runs_cons rest
      cases others with
      | nil => simp [ofChain, h head.1 head.2]
      | cons other others => simp [ofChain, h head.1 head.2]

/-- The condition of a chain is that of its only run, or a disjunction of at least two runs. -/
theorem eq_of_ofChain {chain : List (Connective × Condition)} {c : Condition}
    (h : ofChain chain = some c) :
    (∃ run, runs chain = [run] ∧ c = conjunction run) ∨
      (2 ≤ (runs chain).length ∧ c = any ((runs chain).map conjunction)) := by
  unfold ofChain at h
  split at h
  · cases h
  · next d hd =>
    obtain ⟨run, hruns, rfl⟩ := List.map_eq_singleton_iff.mp hd
    cases h
    exact .inl ⟨run, hruns, rfl⟩
  · next hnil hone =>
    cases h
    refine .inr ⟨?_, rfl⟩
    rcases hruns : runs chain with _ | ⟨first, _ | ⟨second, others⟩⟩
    · exact absurd (by rw [hruns]; rfl) hnil
    · exact absurd (by rw [hruns]; rfl) (hone (conjunction first))
    · simp

/-- What a conjunction of at least two parts takes over from them, every conjunction does. -/
theorem of_conjunction {P : Condition → Prop}
    (hall : ∀ cs, 2 ≤ cs.length → (∀ c ∈ cs, P c) → P (all cs)) {run : List Condition}
    (hne : run ≠ []) (h : ∀ c ∈ run, P c) : P (conjunction run) := by
  rcases run with _ | ⟨c, _ | ⟨d, rest⟩⟩
  · exact absurd rfl hne
  · exact h c (by simp)
  · exact hall _ (by simp) h

theorem areEmpty_eq_false {cs : List Condition} (htwo : 2 ≤ cs.length)
    (h : ∀ c ∈ cs, c.isEmpty = false) : areEmpty cs = false := by
  cases cs with
  | nil => cases htwo
  | cons c rest => rw [areEmpty, h c (List.mem_cons_self ..), Bool.false_and]

/-- What conjunctions and disjunctions of at least two parts take over from them, the condition of a
chain takes over from the elements. -/
theorem of_ofChain {P : Condition → Prop}
    (hall : ∀ cs, 2 ≤ cs.length → (∀ c ∈ cs, P c) → P (all cs))
    (hany : ∀ cs, 2 ≤ cs.length → (∀ c ∈ cs, P c) → P (any cs))
    {chain : List (Connective × Condition)} {c : Condition} (h : ∀ p ∈ chain, P p.2)
    (hc : ofChain chain = some c) : P c := by
  have hrun : ∀ run ∈ runs chain, P (conjunction run) := by
    intro run hrun
    refine of_conjunction hall (ne_nil_of_mem_runs hrun) fun d hd => ?_
    obtain ⟨r, hr⟩ := mem_of_mem_runs hrun hd
    exact h _ hr
  rcases eq_of_ofChain hc with ⟨run, hruns, rfl⟩ | ⟨htwo, rfl⟩
  · exact hrun run (by simp [hruns])
  · refine hany _ (by simpa using htwo) ?_
    intro d hd
    obtain ⟨run, hmem, rfl⟩ := List.mem_map.mp hd
    exact hrun run hmem

theorem NoneEmpty.of_mem_runs {chain : List (Connective × Condition)} (h : NoneEmpty chain)
    {run : List Condition} (hrun : run ∈ runs chain) : ∀ c ∈ run, c.isEmpty = false := by
  intro c hc
  obtain ⟨r, hr⟩ := mem_of_mem_runs hrun hc
  exact h _ hr

theorem isEmpty_of_ofChain {chain : List (Connective × Condition)} {c : Condition}
    (h : NoneEmpty chain) (hc : ofChain chain = some c) : c.isEmpty = false :=
  of_ofChain (P := fun c => c.isEmpty = false) (fun _ htwo => areEmpty_eq_false htwo)
    (fun _ htwo => areEmpty_eq_false htwo) h hc

/-- The condition of a chain says what the chain says. -/
theorem truth_of_ofChain {chain : List (Connective × Condition)} {c : Condition}
    (h : NoneEmpty chain) (hc : ofChain chain = some c) :
    c.truth I entity around = chainTruth I entity around chain := by
  have hempty : ∀ d ∈ (runs chain).map conjunction, d.isEmpty = false := by
    intro d hd
    obtain ⟨run, hmem, rfl⟩ := List.mem_map.mp hd
    exact isEmpty_conjunction (ne_nil_of_mem_runs hmem) (h.of_mem_runs hmem)
  have htruth : ∀ run ∈ runs chain,
      (conjunction run).truth I entity around = .all (run.map (truth I entity around)) :=
    fun run hmem => truth_conjunction (ne_nil_of_mem_runs hmem) (h.of_mem_runs hmem)
  rcases eq_of_ofChain hc with ⟨run, hruns, rfl⟩ | ⟨-, rfl⟩
  · rw [htruth run (by simp [hruns]), chainTruth, hruns]
    simp
  · rw [truth, truths_eq_map hempty, List.map_map, chainTruth]
    exact congrArg Truth.any (List.map_congr_left htruth)

/-- An element that attaches with `or` opens a run of its own. -/
theorem runs_append_or (chain : List (Connective × Condition)) (c : Condition) :
    runs (chain ++ [(.or, c)]) = runs chain ++ [[c]] := by
  induction chain with
  | nil => rfl
  | cons head rest ih =>
      obtain ⟨r, d⟩ := head
      cases rest with
      | nil => rfl
      | cons next rest =>
          obtain ⟨r', e⟩ := next
          cases r' with
          | and =>
              obtain ⟨run, others, hr⟩ := exists_runs_cons rest
              rw [hr .and e] at ih
              have happend : runs ((.and, e) :: (rest ++ [(.or, c)])) =
                  (e :: run) :: (others ++ [[c]]) := ih
              rw [List.cons_append, List.cons_append, runs_cons_and happend,
                runs_cons_and (hr .and e), List.cons_append]
          | or => exact congrArg ([d] :: ·) ih

/-- An element that attaches with `and` goes into the last run. -/
theorem exists_runs_append_and {chain : List (Connective × Condition)} (hne : chain ≠ [])
    (c : Condition) :
    ∃ before last, runs chain = before ++ [last] ∧
      runs (chain ++ [(.and, c)]) = before ++ [last ++ [c]] := by
  induction chain with
  | nil => exact absurd rfl hne
  | cons head rest ih =>
      obtain ⟨r, d⟩ := head
      cases rest with
      | nil => exact ⟨[], [d], rfl, rfl⟩
      | cons next rest =>
          obtain ⟨r', e⟩ := next
          obtain ⟨before, last, hruns, happend⟩ := ih (by simp)
          cases r' with
          | and =>
              -- the new element in front joins the first run, which may also be the last one
              cases before with
              | nil => exact ⟨[], d :: last, runs_cons_and hruns, runs_cons_and happend⟩
              | cons run before =>
                  exact ⟨(d :: run) :: before, last, runs_cons_and hruns, runs_cons_and happend⟩
          | or =>
              exact ⟨[d] :: before, last, congrArg ([d] :: ·) hruns, congrArg ([d] :: ·) happend⟩

/-- A chain selects when all of some run does. -/
theorem chainTruth_eq_yes_iff {chain : List (Connective × Condition)} :
    chainTruth I entity around chain = .yes ↔
      ∃ run ∈ runs chain, ∀ c ∈ run, c.truth I entity around = .yes := by
  rw [chainTruth, Truth.any_eq_yes_iff, List.mem_map]
  simp

/-- One more element that attaches with `or` is one more way to be selected. -/
theorem chainTruth_append_or_eq_yes_iff (chain : List (Connective × Condition)) (c : Condition) :
    chainTruth I entity around (chain ++ [(.or, c)]) = .yes ↔
      chainTruth I entity around chain = .yes ∨ c.truth I entity around = .yes := by
  simp [chainTruth_eq_yes_iff, runs_append_or, or_and_right, exists_or]

/-- One more element that attaches with `and` is one more requirement of a run. -/
theorem chainTruth_of_append_and {chain : List (Connective × Condition)} (hne : chain ≠ [])
    {c : Condition} (h : chainTruth I entity around (chain ++ [(.and, c)]) = .yes) :
    chainTruth I entity around chain = .yes := by
  obtain ⟨before, last, hruns, happend⟩ := exists_runs_append_and hne c
  obtain ⟨run, hrun, hall⟩ := chainTruth_eq_yes_iff.mp h
  rw [happend] at hrun
  rw [chainTruth_eq_yes_iff, hruns]
  rcases List.mem_append.mp hrun with hmem | hmem
  · exact ⟨run, by simp [hmem], hall⟩
  · cases List.mem_singleton.mp hmem
    exact ⟨last, by simp, fun d hd => hall d (by simp [hd])⟩

end FilterQuery.Condition
