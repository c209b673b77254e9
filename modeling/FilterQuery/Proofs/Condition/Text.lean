import FilterQuery.Condition.Sql

/-!
# Conditions without text

The text of a condition is empty when the condition is: whatever a condition is made of, a part that
is not empty is written down, and only empty parts are left out.
-/

namespace FilterQuery.Condition

open Sql

theorem isEmpty_join {separator : String} {ts : List Template} (h : ∀ t ∈ ts, t ≠ []) :
    (Template.join separator ts).isEmpty = ts.isEmpty := by
  cases ts with
  | nil => rfl
  | cons t rest =>
      have ht : t ≠ [] := h t (by simp)
      cases rest with
      | nil => simp [Template.join, ht]
      | cons u rest => simp [Template.join, ht]

theorem bracketIf_ne_nil {needed : Bool} {t : Template} (h : t ≠ []) : bracketIf needed t ≠ [] := by
  cases needed with
  | false => exact h
  | true => simp [bracketIf, Template.parenthesized, Template.text]

mutual

/-- A condition has no text exactly when it is empty. -/
theorem isEmpty_template : (c : Condition) → c.template.isEmpty = c.isEmpty
  | all cs => by rw [template, isEmpty_join (ne_nil_of_mem_parts cs), isEmpty_parts cs, isEmpty]
  | any cs => by rw [template, isEmpty_join (ne_nil_of_mem_parts cs), isEmpty_parts cs, isEmpty]
  | compare column op v => rfl
  | nullness column isNull => rfl
  | membership column vs negated => by
      rw [template, membershipTemplate]
      split
      · rfl
      · rfl
  | range column lower upper negated => rfl
  | existsRow table correlation c => by
      rw [template]
      rfl
  | always => rfl
  | never => rfl

theorem isEmpty_parts {needed : Condition → Bool} : (cs : List Condition) →
    (parts needed cs).isEmpty = areEmpty cs
  | [] => rfl
  | c :: rest => by
      rw [parts, areEmpty]
      cases c.isEmpty with
      | true => exact isEmpty_parts rest
      | false => rfl

theorem ne_nil_of_mem_parts {needed : Condition → Bool} : (cs : List Condition) →
    ∀ t ∈ parts needed cs, t ≠ []
  | [], t, h => by
      rw [parts] at h
      cases h
  | c :: rest, t, h => by
      have htemplate := isEmpty_template c
      rw [parts] at h
      split at h
      · exact ne_nil_of_mem_parts rest t h
      · next hc =>
        rcases List.mem_cons.mp h with rfl | hmem
        · apply bracketIf_ne_nil
          rw [Bool.not_eq_true] at hc
          rw [hc] at htemplate
          exact List.isEmpty_eq_false_iff.mp htemplate
        · exact ne_nil_of_mem_parts rest t hmem

end

end FilterQuery.Condition
