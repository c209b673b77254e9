import FilterQuery.Proofs.Condition.Occurrence

/-!
# Telling new subqueries from old ones

Correlation may add a subquery that reads like one that was there before. To tell them apart, a
condition is correlated with a mark, a text that none of its own subqueries has for a correlation.
`mapCorrelation_correlate_mark` states that nothing else changes: with the correlation in place of
the mark it is what correlation gives.
-/

namespace FilterQuery.Condition

mutual

/-- The condition with other texts for correlations. What is inside of subqueries stays. -/
def mapCorrelation (f : String → String) : Condition → Condition
  | all cs => all (mapCorrelations f cs)
  | any cs => any (mapCorrelations f cs)
  | existsRow table correlation c => existsRow table (f correlation) c
  | c => c

/-- The conditions with other texts for correlations. -/
def mapCorrelations (f : String → String) : List Condition → List Condition
  | [] => []
  | c :: rest => mapCorrelation f c :: mapCorrelations f rest

end

/-- No subquery of the condition has the mark for its correlation. -/
def IsUnmarked (mark : String) (c : Condition) : Prop :=
  ∀ table d, ¬Exposed (existsRow table mark d) c

/-- Puts a correlation in place of the mark. -/
def unmark (mark correlation text : String) : String :=
  if text = mark then correlation else text

variable {table correlation mark : String} {f : String → String} {c : Condition}
  {cs : List Condition}

theorem isUnmarked_all_iff : (all cs).IsUnmarked mark ↔ ∀ c ∈ cs, c.IsUnmarked mark := by
  constructor
  · intro h c hc t d hd
    exact h t d (.all hc hd)
  · rintro h t d (_ | ⟨hc, hd⟩)
    exact h _ hc t d hd

theorem isUnmarked_any_iff : (any cs).IsUnmarked mark ↔ ∀ c ∈ cs, c.IsUnmarked mark := by
  constructor
  · intro h c hc t d hd
    exact h t d (.any hc hd)
  · rintro h t d (_ | _ | ⟨hc, hd⟩)
    exact h _ hc t d hd

theorem isUnmarked_existsRow_iff :
    (existsRow table correlation c).IsUnmarked mark ↔ correlation ≠ mark := by
  constructor
  · rintro h rfl
    exact h table c .here
  · rintro h t d ⟨⟩
    exact h rfl

theorem isUnmarked_of_column? {column : String} (h : c.column? = some column) :
    c.IsUnmarked mark := by
  intro t d hd
  cases hd <;> cases h

theorem isUnmarked_never : never.IsUnmarked mark := by
  rintro t d ⟨⟩

/-- The correlations of subqueries have a greatest length. -/
theorem exists_length_le (c : Condition) :
    ∃ n, ∀ t r d, Exposed (existsRow t r d) c → r.length ≤ n := by
  have hmembers (cs : List Condition)
      (h : ∀ c ∈ cs, ∃ n, ∀ t r d, Exposed (existsRow t r d) c → r.length ≤ n) :
      ∃ n, ∀ c ∈ cs, ∀ t r d, Exposed (existsRow t r d) c → r.length ≤ n := by
    induction cs with
    | nil => exact ⟨0, by simp⟩
    | cons c rest ih =>
        obtain ⟨m, hm⟩ := h c (List.mem_cons_self ..)
        obtain ⟨n, hn⟩ := ih fun d hd => h d (List.mem_cons_of_mem _ hd)
        refine ⟨max m n, List.forall_mem_cons.mpr ⟨?_, ?_⟩⟩
        · intro t r d hd
          exact Nat.le_trans (hm t r d hd) (Nat.le_max_left m n)
        · intro e he t r d hd
          exact Nat.le_trans (hn e he t r d hd) (Nat.le_max_right m n)
  induction c using memberInduction with
  | all cs ih =>
      obtain ⟨n, hn⟩ := hmembers cs ih
      refine ⟨n, fun t r d hd => ?_⟩
      cases hd with
      | all hc hd => exact hn _ hc t r d hd
  | any cs ih =>
      obtain ⟨n, hn⟩ := hmembers cs ih
      refine ⟨n, fun t r d hd => ?_⟩
      cases hd with
      | any hc hd => exact hn _ hc t r d hd
  | existsRow t r c ih =>
      refine ⟨r.length, fun t r d hd => ?_⟩
      cases hd
      exact Nat.le_refl _
  | test c column hcolumn =>
      refine ⟨0, fun t r d hd => ?_⟩
      cases hd <;> cases hcolumn
  | always => exact ⟨0, fun t r d hd => by cases hd⟩
  | never => exact ⟨0, fun t r d hd => by cases hd⟩

/-- Every condition leaves a mark to choose. -/
theorem exists_isUnmarked (c : Condition) : ∃ mark, c.IsUnmarked mark := by
  obtain ⟨n, hn⟩ := exists_length_le c
  refine ⟨String.ofList (List.replicate (n + 1) 'x'), fun t d hd => ?_⟩
  have hlength := hn t _ d hd
  rw [String.length_ofList, List.length_replicate] at hlength
  exact Nat.not_succ_le_self n hlength

@[simp] theorem mapCorrelations_eq_map (cs : List Condition) :
    mapCorrelations f cs = cs.map (mapCorrelation f) := by
  induction cs with
  | nil => rfl
  | cons c rest ih => rw [mapCorrelations, ih, List.map_cons]

/-- A condition stays as it is when the texts of its exposed subqueries do. -/
theorem mapCorrelation_eq_self (c : Condition)
    (h : ∀ t r d, Exposed (existsRow t r d) c → f r = r) : c.mapCorrelation f = c := by
  induction c using memberInduction with
  | all cs ih =>
      rw [mapCorrelation, mapCorrelations_eq_map,
        List.map_congr_left fun c hc => ih c hc fun t r d hd => h t r d (.all hc hd), List.map_id']
  | any cs ih =>
      rw [mapCorrelation, mapCorrelations_eq_map,
        List.map_congr_left fun c hc => ih c hc fun t r d hd => h t r d (.any hc hd), List.map_id']
  | existsRow t r c ih => rw [mapCorrelation, h t r c .here]
  | test c column hcolumn =>
      cases c with
      | all cs | any cs | existsRow t r c => cases hcolumn
      | _ => rfl
  | always => rfl
  | never => rfl

/-- A condition on the table alone has no subqueries. -/
theorem mapCorrelation_of_isPure (h : isPure table c = true) : c.mapCorrelation f = c := by
  refine mapCorrelation_eq_self c fun t r d hd => ?_
  exact absurd ⟨t, r, d, rfl⟩ ((isPure_iff_isRowTest.mp h).flat _ hd.occurs)

theorem mapCorrelation_unmark (h : c.IsUnmarked mark) :
    c.mapCorrelation (unmark mark correlation) = c := by
  refine mapCorrelation_eq_self c fun t r d hd => if_neg ?_
  rintro rfl
  exact h t d hd

theorem touchAll_map {g : Condition → Condition} (h : ∀ c ∈ cs, touch table (g c) = touch table c) :
    touchAll table (cs.map g) = touchAll table cs := by
  induction cs with
  | nil => rfl
  | cons c rest ih =>
      rw [List.map_cons, touchAll, touchAll, h c (List.mem_cons_self ..),
        ih fun d hd => h d (List.mem_cons_of_mem _ hd)]

/-- Correlations are not what a condition tests. -/
@[simp] theorem touch_mapCorrelation (c : Condition) :
    touch table (c.mapCorrelation f) = touch table c := by
  induction c using memberInduction with
  | all cs ih => rw [mapCorrelation, mapCorrelations_eq_map, touch, touch, touchAll_map ih]
  | any cs ih => rw [mapCorrelation, mapCorrelations_eq_map, touch, touch, touchAll_map ih]
  | existsRow t r c ih => rfl
  | test c column hcolumn =>
      cases c with
      | all cs | any cs | existsRow t r c => cases hcolumn
      | _ => rfl
  | always => rfl
  | never => rfl

@[simp] theorem isPure_mapCorrelation (c : Condition) :
    isPure table (c.mapCorrelation f) = isPure table c := by
  rw [isPure, isPure, touch_mapCorrelation]

theorem isEmpty_mapCorrelation (c : Condition) : (c.mapCorrelation f).isEmpty = c.isEmpty := by
  have hmembers (cs : List Condition)
      (h : ∀ c ∈ cs, (c.mapCorrelation f).isEmpty = c.isEmpty) :
      areEmpty (cs.map (mapCorrelation f)) = areEmpty cs := by
    induction cs with
    | nil => rfl
    | cons c rest ih =>
        rw [List.map_cons, areEmpty, areEmpty, h c (List.mem_cons_self ..),
          ih fun d hd => h d (List.mem_cons_of_mem _ hd)]
  induction c using memberInduction with
  | all cs ih => rw [mapCorrelation, mapCorrelations_eq_map, isEmpty, isEmpty, hmembers cs ih]
  | any cs ih => rw [mapCorrelation, mapCorrelations_eq_map, isEmpty, isEmpty, hmembers cs ih]
  | existsRow t r c ih => rfl
  | test c column hcolumn =>
      cases c with
      | all cs | any cs | existsRow t r c => cases hcolumn
      | _ => rfl
  | always => rfl
  | never => rfl

theorem filter_isPure_map (cs : List Condition) :
    (cs.map (mapCorrelation f)).filter (isPure table) = cs.filter (isPure table) := by
  induction cs with
  | nil => rfl
  | cons c rest ih =>
      cases hpure : isPure table c with
      | true => simp [hpure, ih, mapCorrelation_of_isPure hpure]
      | false => simp [hpure, ih]

/-- Gathering conditions changes correlations as each of the conditions does. -/
theorem map_gather (pending : Option Condition) (h : ∀ c ∈ cs,
      (correlate table correlation c).mapCorrelation f =
        correlate table (f correlation) (c.mapCorrelation f)) :
    (gather table correlation pending cs).map (mapCorrelation f) =
      gather table (f correlation) pending (cs.map (mapCorrelation f)) := by
  induction cs generalizing pending with
  | nil => rfl
  | cons c rest ih =>
      have hrest := fun pending => ih pending fun d hd => h d (List.mem_cons_of_mem _ hd)
      rw [List.map_cons, gather, gather, isPure_mapCorrelation]
      cases isPure table c with
      | true =>
          rw [if_pos rfl, if_pos rfl, List.map_append, hrest]
          cases pending <;> rfl
      | false =>
          rw [if_neg Bool.false_ne_true, if_neg Bool.false_ne_true, List.map_cons, hrest,
            h c (List.mem_cons_self ..)]

/-- It makes no difference whether texts are changed before correlation or after it. -/
theorem mapCorrelation_correlate (f : String → String) (c : Condition) :
    (c.correlate table correlation).mapCorrelation f =
      (c.mapCorrelation f).correlate table (f correlation) := by
  have htouchAll (cs : List Condition) :
      touchAll table (cs.map (mapCorrelation f)) = touchAll table cs :=
    touchAll_map fun c _ => touch_mapCorrelation c
  refine correlateInduction (motive := fun c d =>
    d.mapCorrelation f = (c.mapCorrelation f).correlate table (f correlation))
    ?moved ?kept ?all ?any c
  case moved =>
    intro c hpure
    rw [mapCorrelation_of_isPure hpure, correlate_of_isPure hpure]
    rfl
  case kept =>
    intro c hin
    rw [correlate_of_inside_eq_false ((congrArg Touch.inside (touch_mapCorrelation c)).trans hin)]
  case all =>
    intro cs hmixed ih
    have hmixed' : (touchAll table (cs.map (mapCorrelation f))).isMixed = true := by
      rw [htouchAll, hmixed]
    rw [mapCorrelation, mapCorrelation, mapCorrelations_eq_map, mapCorrelations_eq_map, correlate,
      (isPure_eq_false_of_isMixed hmixed').1, if_neg Bool.false_ne_true, if_pos hmixed',
      map_gather _ ih, filter_isPure_map]
  case any =>
    intro cs hmixed ih
    have hmixed' : (touchAll table (cs.map (mapCorrelation f))).isMixed = true := by
      rw [htouchAll, hmixed]
    rw [mapCorrelation, mapCorrelation, mapCorrelations_eq_map, mapCorrelations_eq_map, correlate,
      (isPure_eq_false_of_isMixed hmixed').2, if_neg Bool.false_ne_true, if_pos hmixed',
      correlateAll_eq_map, List.map_map, List.map_map]
    exact congrArg Condition.any (List.map_congr_left ih)

/-- Correlating with a mark gives what correlation gives, but for the mark. -/
theorem mapCorrelation_correlate_mark (h : c.IsUnmarked mark) :
    (c.correlate table mark).mapCorrelation (unmark mark correlation) =
      c.correlate table correlation := by
  rw [mapCorrelation_correlate, mapCorrelation_unmark h, unmark, if_pos rfl]

end FilterQuery.Condition
