import FilterQuery.Condition.Sql
import FilterQuery.Proofs.Condition.Chain

/-!
# Conditions without their values

The outline of a condition has `null` in place of every value. SQL text is made from the outline
alone: a value only takes the next placeholder. Folding a chain only looks at how its elements are
connected, so the outline of its condition is made from the outlines of the elements.
-/

namespace FilterQuery

namespace Sql

/-- A piece with its value left out. -/
def Piece.outline : Piece → Piece
  | text s => text s
  | value _ => value .null

namespace Template

/-- A template with its values left out. -/
def outline (t : Template) : Template := t.map Piece.outline

@[simp] theorem outline_append (s t : Template) : outline (s ++ t) = outline s ++ outline t :=
  List.map_append

@[simp] theorem outline_text (s : String) : outline (text s) = text s := rfl

@[simp] theorem outline_value (v : Json) : outline (value v) = value .null := rfl

theorem outline_join (separator : String) (ts : List Template) :
    outline (join separator ts) = join separator (ts.map outline) := by
  induction ts with
  | nil => rfl
  | cons t rest ih =>
      cases rest with
      | nil => rfl
      | cons u rest =>
          have hjoin : join separator (t :: u :: rest) =
              t ++ text separator ++ join separator (u :: rest) := rfl
          rw [hjoin, outline_append, outline_append, outline_text, ih]
          rfl

/-- Placeholders are numbered the same, whatever the values. -/
theorem print_outline (first : Nat) (t : Template) : print first (outline t) = print first t := by
  induction t generalizing first with
  | nil => rfl
  | cons p rest ih =>
      cases p with
      | text s => exact congrArg (s ++ ·) (ih first)
      | value v => exact congrArg (placeholder first ++ ·) (ih (first + 1))

theorem length_values_outline (t : Template) : (outline t).values.length = t.values.length := by
  induction t with
  | nil => rfl
  | cons p rest ih =>
      cases p with
      | text s => exact ih
      | value v => exact congrArg (· + 1) ih

theorem isEmpty_outline (t : Template) : (outline t).isEmpty = t.isEmpty := List.isEmpty_map

end Template

/-- Templates of one outline have one text and equally many values. -/
theorem Template.toStatement_of_outline_eq {s t : Template} (h : s.outline = t.outline) :
    s.toStatement.text = t.toStatement.text ∧
      s.toStatement.values.length = t.toStatement.values.length := by
  constructor
  · calc
      print 1 s = print 1 (outline s) := (print_outline 1 s).symm
      _ = print 1 (outline t) := by rw [h]
      _ = print 1 t := print_outline 1 t
  · calc
      s.values.length = (outline s).values.length := (length_values_outline s).symm
      _ = (outline t).values.length := by rw [h]
      _ = t.values.length := length_values_outline t

end Sql

namespace Condition

open Sql

mutual

/-- A condition with its values left out. -/
def outline : Condition → Condition
  | all cs => all (outlines cs)
  | any cs => any (outlines cs)
  | compare column op _ => compare column op .null
  | nullness column isNull => nullness column isNull
  | membership column vs negated => membership column (vs.map fun _ => .null) negated
  | range column _ _ negated => range column .null .null negated
  | existsRow table correlation c => existsRow table correlation (outline c)
  | always => always
  | never => never

/-- Conditions with their values left out. -/
def outlines : List Condition → List Condition
  | [] => []
  | c :: rest => outline c :: outlines rest

end

theorem outlines_eq_map (cs : List Condition) : outlines cs = cs.map outline := by
  induction cs with
  | nil => rfl
  | cons c rest ih => rw [outlines, ih, List.map_cons]

mutual

theorem isEmpty_outline : (c : Condition) → c.outline.isEmpty = c.isEmpty
  | all cs => areEmpty_outlines cs
  | any cs => areEmpty_outlines cs
  | compare .. | nullness .. | membership .. | range .. | existsRow .. | always | never => rfl

theorem areEmpty_outlines : (cs : List Condition) → areEmpty (outlines cs) = areEmpty cs
  | [] => rfl
  | c :: rest => by rw [outlines, areEmpty, areEmpty, isEmpty_outline c, areEmpty_outlines rest]

end

theorem isAny_outline (c : Condition) : c.outline.isAny = c.isAny := by cases c <;> rfl

theorem isAll_outline (c : Condition) : c.outline.isAll = c.isAll := by cases c <;> rfl

theorem outline_bracketIf (needed : Bool) (t : Template) :
    (bracketIf needed t).outline = bracketIf needed t.outline := by
  cases needed with
  | false => rfl
  | true => simp [bracketIf, Template.parenthesized]

theorem outline_membershipTemplate (column : String) (vs : List Json) (negated : Bool) :
    (membershipTemplate column vs negated).outline =
      membershipTemplate column (vs.map fun _ => .null) negated := by
  cases vs with
  | nil => rfl
  | cons v vs =>
      simp [membershipTemplate, Template.outline_join, List.map_map, Function.comp_def]

mutual

/-- The text of an outline is the text of the condition, its values left out. -/
theorem template_outline : (c : Condition) → c.outline.template = c.template.outline
  | all cs => by
      rw [outline, template, template, Template.outline_join, parts_outlines isAny_outline cs]
  | any cs => by
      rw [outline, template, template, Template.outline_join, parts_outlines isAll_outline cs]
  | compare column op v => rfl
  | nullness column isNull => rfl
  | membership column vs negated => (outline_membershipTemplate column vs negated).symm
  | range column lower upper negated => rfl
  | existsRow table correlation c => by
      rw [outline, template, template, isEmpty_outline, isAny_outline, template_outline c,
        Template.outline_append, Template.outline_append]
      split
      · rfl
      · rw [Template.outline_append, outline_bracketIf]
        rfl
  | always => rfl
  | never => rfl

theorem parts_outlines {needsBrackets : Condition → Bool}
    (h : ∀ c, needsBrackets (outline c) = needsBrackets c) : (cs : List Condition) →
    parts needsBrackets (outlines cs) = (parts needsBrackets cs).map Template.outline
  | [] => rfl
  | c :: rest => by
      rw [outlines, parts, parts, isEmpty_outline]
      split
      · exact parts_outlines h rest
      · rw [List.map_cons, outline_bracketIf, h, template_outline c, parts_outlines h rest]

end

theorem outline_conjunction (run : List Condition) :
    (conjunction run).outline = conjunction (run.map outline) := by
  cases run with
  | nil => rfl
  | cons c rest =>
      cases rest with
      | nil => rfl
      | cons d rest => exact congrArg all (outlines_eq_map _)

/-- The runs of a chain do not depend on what its elements are. -/
theorem runs_map (f : Condition → Condition) (chain : List (Connective × Condition)) :
    runs (chain.map fun p => (p.1, f p.2)) = (runs chain).map (List.map f) := by
  induction chain with
  | nil => rfl
  | cons head rest ih =>
      obtain ⟨r, c⟩ := head
      cases rest with
      | nil => rfl
      | cons next rest =>
          obtain ⟨r', d⟩ := next
          cases r' with
          | or => exact congrArg ([f c] :: ·) ih
          | and =>
              obtain ⟨run, others, hruns⟩ := exists_runs_cons rest
              rw [hruns .and d, List.map_cons] at ih
              rw [runs_cons_and (hruns .and d), List.map_cons, List.map_cons, List.map_cons,
                runs_cons_and ih]
              rfl

/-- A part of a chain with the values of its condition left out. -/
def outlinePart (p : Connective × Condition) : Connective × Condition := (p.1, p.2.outline)

/-- The condition of outlines is the outline of the condition. -/
theorem ofChain_map_outlinePart (chain : List (Connective × Condition)) :
    ofChain (chain.map outlinePart) = (ofChain chain).map outline := by
  have hruns : (runs (chain.map outlinePart)).map conjunction =
      ((runs chain).map conjunction).map outline := by
    rw [List.map_map, show outlinePart = fun p => (p.1, outline p.2) from rfl, runs_map,
      List.map_map]
    refine List.map_congr_left ?_
    intro run _
    exact (outline_conjunction run).symm
  rw [ofChain, ofChain, hruns]
  rcases (runs chain).map conjunction with _ | ⟨c, _ | ⟨d, rest⟩⟩
  · rfl
  · rfl
  · exact congrArg (fun cs => some (any cs)) (outlines_eq_map (c :: d :: rest)).symm

/-- Chains of parts with one outline fold to conditions with one outline. -/
theorem outline_ofChain_of_eq {chain chain' : List (Connective × Condition)}
    (h : chain.map outlinePart = chain'.map outlinePart) :
    (ofChain chain).map outline = (ofChain chain').map outline := by
  rw [← ofChain_map_outlinePart, ← ofChain_map_outlinePart, h]

end Condition

end FilterQuery
