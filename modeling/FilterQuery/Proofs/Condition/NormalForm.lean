import FilterQuery.Proofs.Condition.Occurrence

/-!
# Conditions in normal form

In normal form every conjunction and disjunction joins at least two parts and every list of values
has one, inside of subqueries too. Nothing in such a condition is empty, so all of it is written
down. Folding a chain gives a normal form. Correlation keeps it, although it takes parts out of a
conjunction: a conjunction that is taken apart has a part on the table and another part, so the
subquery that comes in for the former has a neighbour.
-/

namespace FilterQuery.Condition

/-- There are parts to join and values to look for. -/
def IsFilled : Condition → Prop
  | all cs | any cs => 2 ≤ cs.length
  | membership _ vs _ => vs ≠ []
  | compare .. | nullness .. | range .. | existsRow .. | always | never => True

/-- Everything in the condition is filled, inside of subqueries too. -/
def IsNormal (c : Condition) : Prop := ∀ d, Occurs d c → d.IsFilled

section IsNormal

variable {table correlation : String} {c : Condition} {cs : List Condition}

theorem isNormal_all_iff : (all cs).IsNormal ↔ 2 ≤ cs.length ∧ ∀ c ∈ cs, c.IsNormal := by
  constructor
  · intro h
    exact ⟨h _ .here, fun c hc d hd => h d (.all hc hd)⟩
  · rintro ⟨htwo, hparts⟩ d (_ | ⟨hc, hd⟩)
    · exact htwo
    · exact hparts _ hc d hd

theorem isNormal_any_iff : (any cs).IsNormal ↔ 2 ≤ cs.length ∧ ∀ c ∈ cs, c.IsNormal := by
  constructor
  · intro h
    exact ⟨h _ .here, fun c hc d hd => h d (.any hc hd)⟩
  · rintro ⟨htwo, hparts⟩ d (_ | _ | ⟨hc, hd⟩)
    · exact htwo
    · exact hparts _ hc d hd

theorem isNormal_wrap_iff : (wrap table correlation c).IsNormal ↔ c.IsNormal := by
  constructor
  · intro h d hd
    exact h d (.subquery hd)
  · rintro h d (_ | _ | _ | hd)
    · trivial
    · exact h d hd

theorem isNormal_ofTest (column : String) (t : Test) : (ofTest column t).IsNormal := by
  intro d hd
  cases t with
  | compare op v => cases hd; trivial
  | nullness isNull => cases hd; trivial
  | range lower upper negated => cases hd; trivial
  | membership vs negated =>
      cases vs with
      | nil => cases negated <;> cases hd <;> trivial
      | cons v rest => cases negated <;> cases hd <;> exact List.cons_ne_nil v rest

theorem IsNormal.isEmpty_eq_false (h : c.IsNormal) : c.isEmpty = false := by
  induction c using memberInduction with
  | all cs ih =>
      obtain ⟨htwo, hparts⟩ := isNormal_all_iff.mp h
      exact areEmpty_eq_false htwo fun c hc => ih c hc (hparts c hc)
  | any cs ih =>
      obtain ⟨htwo, hparts⟩ := isNormal_any_iff.mp h
      exact areEmpty_eq_false htwo fun c hc => ih c hc (hparts c hc)
  | existsRow t r c ih => rfl
  | test c column hcolumn =>
      cases c with
      | all cs | any cs => cases hcolumn
      | _ => rfl
  | always => rfl
  | never => rfl

theorem Occurs.trans {d e : Condition} (h : Occurs d e) (h' : Occurs e c) : Occurs d c := by
  induction h' with
  | here => exact h
  | all mem _ ih => exact .all mem ih
  | any mem _ ih => exact .any mem ih
  | subquery _ ih => exact .subquery ih

/-- Nothing in a normal form is empty. -/
theorem IsNormal.isEmpty_of_occurs (h : c.IsNormal) {d : Condition} (hd : Occurs d c) :
    d.isEmpty = false :=
  isEmpty_eq_false fun e he => h e (he.trans hd)

theorem isNormal_conjunction {run : List Condition} (hne : run ≠ [])
    (h : ∀ c ∈ run, c.IsNormal) : (conjunction run).IsNormal :=
  of_conjunction (fun _ htwo hparts => isNormal_all_iff.mpr ⟨htwo, hparts⟩) hne h

/-- A chain of normal forms folds to a normal form. -/
theorem isNormal_of_ofChain {chain : List (Connective × Condition)}
    (h : ∀ p ∈ chain, p.2.IsNormal) (hc : ofChain chain = some c) : c.IsNormal :=
  of_ofChain (fun _ htwo hparts => isNormal_all_iff.mpr ⟨htwo, hparts⟩)
    (fun _ htwo hparts => isNormal_any_iff.mpr ⟨htwo, hparts⟩) h hc

/-- Gathering puts one condition in place of those on the table alone. -/
theorem length_gather (pending : Option Condition) (cs : List Condition) :
    (gather table correlation pending cs).length =
      cs.countP (fun c => !isPure table c) +
        if cs.any (isPure table) then pending.toList.length else 0 := by
  induction cs generalizing pending with
  | nil => rfl
  | cons c rest ih =>
      rw [gather]
      cases hpure : isPure table c with
      | true => cases pending <;> simp [ih, hpure, Nat.add_comm]
      | false => simp [ih, hpure, Nat.add_right_comm]

/-- A conjunction that is taken apart keeps two parts. -/
theorem two_le_length_gather (htwo : 2 ≤ cs.length) (hmixed : (touchAll table cs).isMixed = true)
    (run : Condition) : 2 ≤ (gather table correlation (some run) cs).length := by
  rw [length_gather]
  cases hany : cs.any (isPure table) with
  | true =>
      obtain ⟨-, hout⟩ := Bool.and_eq_true_iff.mp hmixed
      obtain ⟨c, hc, hother⟩ := outside_touchAll_iff.mp hout
      have hpos : 0 < cs.countP fun c => !isPure table c := by
        rw [List.countP_pos_iff]
        exact ⟨c, hc, by simp [isPure, Touch.isPure, hother]⟩
      simpa using hpos
  | false =>
      have hall : cs.countP (fun c => !isPure table c) = cs.length := by
        rw [List.countP_eq_length]
        simpa using hany
      simpa [hall] using htwo

/-- Correlation keeps the normal form. -/
theorem IsNormal.correlate (h : c.IsNormal) : (c.correlate table correlation).IsNormal := by
  refine correlateInduction (motive := fun c d => c.IsNormal → d.IsNormal)
    ?moved ?kept ?all ?any c h
  case moved =>
    intro c _ h
    exact isNormal_wrap_iff.mpr h
  case kept =>
    intro c _ h
    exact h
  case all =>
    intro cs hmixed ih h
    obtain ⟨htwo, hparts⟩ := isNormal_all_iff.mp h
    refine isNormal_all_iff.mpr ⟨two_le_length_gather htwo hmixed _, ?_⟩
    intro d hd
    rcases mem_gather_iff.mp hd with ⟨run, hrun, ⟨c, hc, hpure⟩, rfl⟩ | ⟨c, hc, -, rfl⟩
    · cases hrun
      rw [isNormal_wrap_iff]
      refine isNormal_conjunction ?_ fun d hd => hparts d (List.mem_filter.mp hd).1
      exact List.ne_nil_of_mem (List.mem_filter.mpr ⟨hc, hpure⟩)
    · exact ih c hc (hparts c hc)
  case any =>
    intro cs _ ih h
    obtain ⟨htwo, hparts⟩ := isNormal_any_iff.mp h
    refine isNormal_any_iff.mpr ⟨by simpa using htwo, ?_⟩
    intro d hd
    obtain ⟨c, hc, rfl⟩ := List.mem_map.mp hd
    exact ih c hc (hparts c hc)

end IsNormal

end FilterQuery.Condition
