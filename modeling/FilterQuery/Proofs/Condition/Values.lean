import FilterQuery.Condition.Sql
import FilterQuery.Proofs.Condition.Collection

/-!
# The values of a condition

The values of a condition stand in its tests, from the left to the right. SQL text leaves out what is
empty, adds parentheses and opens subqueries, but takes every value once and in this order.
-/

namespace FilterQuery

namespace Sql.Template

theorem values_join (separator : String) (ts : List Template) :
    (join separator ts).values = ts.flatMap values := by
  induction ts with
  | nil => rfl
  | cons t rest ih =>
      cases rest with
      | nil => simp [join]
      | cons u rest =>
          have hjoin : join separator (t :: u :: rest) =
              t ++ text separator ++ join separator (u :: rest) := rfl
          rw [hjoin, values_append, values_append, values_text, List.append_nil, ih]
          exact List.flatMap_cons.symm

@[simp] theorem values_parenthesized (t : Template) : t.parenthesized.values = t.values := by
  simp [parenthesized]

theorem values_map_value (vs : List Json) : (vs.map value).flatMap values = vs := by
  simp [List.flatMap_map]

end Sql.Template

namespace Condition

open Sql

mutual

/-- The values of a condition, in order. -/
def values : Condition → List Json
  | all cs | any cs => valuesAll cs
  | compare _ _ v => [v]
  | nullness _ _ => []
  | membership _ vs _ => vs
  | range _ lower upper _ => [lower, upper]
  | existsRow _ _ c => values c
  | always | never => []

/-- The values of conditions, one after the other. -/
def valuesAll : List Condition → List Json
  | [] => []
  | c :: rest => values c ++ valuesAll rest

end

theorem valuesAll_eq_flatMap (cs : List Condition) : valuesAll cs = cs.flatMap values := by
  induction cs with
  | nil => rfl
  | cons c rest ih => rw [valuesAll, ih, List.flatMap_cons]

theorem collects_values : Collects values where
  all cs := valuesAll_eq_flatMap cs
  any cs := valuesAll_eq_flatMap cs

mutual

theorem values_of_isEmpty : (c : Condition) → c.isEmpty = true → c.values = []
  | all cs, h | any cs, h => valuesAll_of_areEmpty cs h

theorem valuesAll_of_areEmpty : (cs : List Condition) → areEmpty cs = true → valuesAll cs = []
  | [], _ => rfl
  | c :: rest, h => by
      obtain ⟨hc, hrest⟩ := Bool.and_eq_true_iff.mp h
      rw [valuesAll, values_of_isEmpty c hc, valuesAll_of_areEmpty rest hrest, List.nil_append]

end

theorem values_bracketIf (needed : Bool) (t : Template) : (bracketIf needed t).values = t.values := by
  cases needed with
  | false => rfl
  | true => exact Template.values_parenthesized t

theorem values_membershipTemplate (column : String) (vs : List Json) (negated : Bool) :
    (membershipTemplate column vs negated).values = vs := by
  cases vs with
  | nil => rfl
  | cons v vs =>
      rw [membershipTemplate, List.isEmpty_cons, if_neg Bool.false_ne_true, Template.values_append,
        Template.values_append, Template.values_text, Template.values_text, Template.values_join,
        Template.values_map_value, List.nil_append, List.append_nil]

mutual

/-- The text of a condition has the values of the condition. -/
theorem values_template : (c : Condition) → c.template.values = c.values
  | all cs => by rw [template, Template.values_join, flatMap_values_parts, values]
  | any cs => by rw [template, Template.values_join, flatMap_values_parts, values]
  | compare column op v => rfl
  | nullness column isNull => rfl
  | membership column vs negated => values_membershipTemplate column vs negated
  | range column lower upper negated => rfl
  | existsRow table correlation c => by
      rw [template, values, Template.values_append, Template.values_append, Template.values_text,
        Template.values_text, List.nil_append, List.append_nil]
      split
      · next hempty => exact (values_of_isEmpty c hempty).symm
      · rw [Template.values_append, Template.values_text, values_bracketIf, values_template c,
          List.nil_append]
  | always => rfl
  | never => rfl

theorem flatMap_values_parts (needsBrackets : Condition → Bool) : (cs : List Condition) →
    (parts needsBrackets cs).flatMap Template.values = valuesAll cs
  | [] => rfl
  | c :: rest => by
      rw [parts, valuesAll]
      split
      · next hempty =>
        rw [flatMap_values_parts needsBrackets rest, values_of_isEmpty c hempty, List.nil_append]
      · rw [List.flatMap_cons, values_bracketIf, values_template c,
          flatMap_values_parts needsBrackets rest]

end

end Condition

end FilterQuery
