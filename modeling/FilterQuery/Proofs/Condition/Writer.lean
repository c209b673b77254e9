import FilterQuery.Binding.Parameters
import FilterQuery.Proofs.Condition.Placeholders

/-!
# Writing conditions in one pass

A condition can be written without a template: each value goes behind those that are bound already
and leaves a placeholder with its place, and the parts are put together as they come back.
`Condition.run_write` states that this gives the text and the values of the template, so
placeholders are numbered in the order in which they stand in the text.
-/

namespace FilterQuery

open Binding (Parameters)
open Sql

namespace Condition

/-- Binds a value and writes the placeholder for it. -/
def writeValue (v : Json) : StateM Parameters String := do
  modify (·.push v)
  return Template.placeholder (← get).size

mutual

/-- Writes a condition. -/
def write : Condition → StateM Parameters String
  | all cs => return " AND ".intercalate (← writeParts isAny cs)
  | any cs => return " OR ".intercalate (← writeParts isAll cs)
  | compare column op v => return column ++ " " ++ op.sql ++ " " ++ (← writeValue v)
  | nullness column isNull => return column ++ if isNull then " IS NULL" else " IS NOT NULL"
  | membership column vs negated =>
    if vs.isEmpty then return if negated then "1=1" else "1=0"
    else do
      let placeholders ← vs.mapM writeValue
      let keyword := if negated then " NOT IN (" else " IN ("
      return column ++ keyword ++ ", ".intercalate placeholders ++ ")"
  | range column lower upper negated => do
    let first ← writeValue lower
    let second ← writeValue upper
    let keyword := if negated then " NOT BETWEEN " else " BETWEEN "
    return column ++ keyword ++ first ++ " AND " ++ second
  | existsRow table correlation c => do
    let inner ← write c
    let row := "EXISTS (SELECT 1 FROM " ++ table ++ " WHERE " ++ correlation
    if inner.isEmpty then return row ++ ")"
    else if isAny c then return row ++ " AND (" ++ inner ++ "))"
    else return row ++ " AND " ++ inner ++ ")"
  | always => return "1=1"
  | never => return "1=0"

/-- Writes the conditions that are not empty, some of them in parentheses. -/
def writeParts (needsBrackets : Condition → Bool) : List Condition → StateM Parameters (List String)
  | [] => return []
  | c :: rest =>
    if isEmpty c then writeParts needsBrackets rest
    else do
      let text ← write c
      let texts ← writeParts needsBrackets rest
      return (if needsBrackets c then "(" ++ text ++ ")" else text) :: texts

end

end Condition

/-- Steps go on with the result and the state of the first one. -/
theorem StateM.run_bind_eq {α β σ : Type} {x : StateM σ α} {a : α} {s s' : σ}
    (h : x.run s = (a, s')) (f : α → StateM σ β) : (x >>= f).run s = (f a).run s' := by
  rw [StateT.run_bind, h]
  rfl

namespace Sql.Template

variable {t u : Template} {ts : List Template} {steps : StateM Parameters String}
  {partSteps : StateM Parameters (List String)}

/-- The texts of templates that are printed one after the other. -/
def prints (first : Nat) : List Template → List String
  | [] => []
  | t :: rest => print first t :: prints (first + t.values.length) rest

/-- Printing joined templates joins what they print. -/
theorem print_join (first : Nat) (separator : String) (ts : List Template) :
    (join separator ts).print first = separator.intercalate (prints first ts) := by
  induction ts generalizing first with
  | nil => rfl
  | cons t rest ih =>
      cases rest with
      | nil => rw [join, prints, prints, String.intercalate_singleton]
      | cons u rest =>
          have hjoin : join separator (t :: u :: rest) =
              t ++ text separator ++ join separator (u :: rest) := rfl
          have hprints : prints first (t :: u :: rest) =
              t.print first :: prints (first + t.values.length) (u :: rest) := rfl
          rw [hjoin, print_append, print_append, ih, print_text, values_append, values_text,
            List.append_nil, hprints, String.intercalate_cons_of_ne_nil]
          exact List.cons_ne_nil _ _

/-- Steps that write the template, whatever is bound already. -/
def IsWrittenBy (t : Template) (steps : StateM Parameters String) : Prop :=
  ∀ p : Parameters, steps.run p = (t.print (p.size + 1), ⟨p.values ++ t.values⟩)

/-- Steps that write the templates, one after the other. -/
def AreWrittenBy (ts : List Template) (steps : StateM Parameters (List String)) : Prop :=
  ∀ p : Parameters, steps.run p = (prints (p.size + 1) ts, ⟨p.values ++ ts.flatMap values⟩)

theorem isWrittenBy_text (s : String) : (text s).IsWrittenBy (pure s) := by
  intro p
  rw [print_text, values_text, List.append_nil]
  rfl

theorem isWrittenBy_writeValue (v : Json) : (value v).IsWrittenBy (Condition.writeValue v) := by
  intro p
  rw [print_value, values_value, ← p.size_push v]
  rfl

theorem isWrittenBy_join (h : AreWrittenBy ts partSteps) (separator : String) :
    (join separator ts).IsWrittenBy (do return separator.intercalate (← partSteps)) := by
  intro p
  refine (StateM.run_bind_eq (h p) _).trans ?_
  rw [print_join, values_join]
  rfl

theorem areWrittenBy_nil : AreWrittenBy [] (pure []) := by
  intro p
  rw [List.flatMap_nil, List.append_nil]
  rfl

/-- The number of the next placeholder after more values are bound. -/
theorem size_append_add_one (p : Parameters) (vs : List Json) :
    Parameters.size ⟨p.values ++ vs⟩ + 1 = p.size + 1 + vs.length := by
  rw [Parameters.size, Parameters.size, List.length_append, Nat.add_right_comm]

/-- Steps for a template go before the steps for others; there may be brackets around its text. -/
theorem areWrittenBy_cons {bracket : String → String} (ht : t.IsWrittenBy steps)
    (hprint : ∀ first, u.print first = bracket (t.print first)) (hvalues : u.values = t.values)
    (hts : AreWrittenBy ts partSteps) :
    AreWrittenBy (u :: ts) (do
      let text ← steps
      let texts ← partSteps
      return bracket text :: texts) := by
  intro p
  refine (StateM.run_bind_eq (ht p) _).trans ?_
  refine (StateM.run_bind_eq (hts _) _).trans ?_
  rw [size_append_add_one, prints, List.flatMap_cons, hprint, hvalues, ← List.append_assoc]
  rfl

theorem areWrittenBy_values (vs : List Json) :
    AreWrittenBy (vs.map value) (vs.mapM Condition.writeValue) := by
  induction vs with
  | nil => exact areWrittenBy_nil
  | cons v vs ih =>
      rw [List.mapM_cons]
      exact areWrittenBy_cons (isWrittenBy_writeValue v) (fun _ => rfl) rfl ih

end Sql.Template

namespace Condition

open Sql.Template

theorem print_bracketIf (needed : Bool) (t : Template) (first : Nat) :
    (bracketIf needed t).print first =
      if needed then "(" ++ t.print first ++ ")" else t.print first := by
  cases needed with
  | false => rfl
  | true => simp [bracketIf, parenthesized, print_append, String.append_assoc]

/-- Nothing is written for an empty condition, and for no other one. -/
theorem isEmpty_print_template (c : Condition) (first : Nat) :
    (c.template.print first).isEmpty = c.isEmpty := by
  rw [Bool.eq_iff_iff, String.isEmpty_iff, print_eq_empty_iff, isBlank_template_iff]

variable {column table correlation : String} {c : Condition}

theorem isWrittenBy_compare (op : Operator) (v : Json) :
    (compare column op v).template.IsWrittenBy (compare column op v).write := by
  intro p
  rw [template, write]
  refine (StateM.run_bind_eq (isWrittenBy_writeValue v p) _).trans ?_
  simp only [print_append, print_text, print_value]
  rfl

theorem isWrittenBy_membership (vs : List Json) (negated : Bool) :
    (membership column vs negated).template.IsWrittenBy (membership column vs negated).write := by
  rw [template, membershipTemplate, write]
  split
  · exact isWrittenBy_text _
  · intro p
    refine (StateM.run_bind_eq (areWrittenBy_values vs p) _).trans ?_
    simp only [print_append, print_text, print_join, values_append, values_text, values_join,
      List.length_nil, Nat.add_zero, List.nil_append, List.append_nil]
    rfl

theorem isWrittenBy_range (lower upper : Json) (negated : Bool) :
    (range column lower upper negated).template.IsWrittenBy
      (range column lower upper negated).write := by
  intro p
  rw [template, write]
  refine (StateM.run_bind_eq (isWrittenBy_writeValue lower p) _).trans ?_
  refine (StateM.run_bind_eq (isWrittenBy_writeValue upper _) _).trans ?_
  simp only [size_append_add_one, print_append, print_text, print_value, values_append,
    values_text, values_value, List.length_nil, Nat.add_zero, List.nil_append,
    List.append_assoc, String.append_assoc]
  rfl

/-- The condition of a subquery is left out if its text is empty, and so exactly if it is empty. -/
theorem isWrittenBy_existsRow (h : c.template.IsWrittenBy c.write) :
    (existsRow table correlation c).template.IsWrittenBy (existsRow table correlation c).write := by
  intro p
  rw [template, write]
  refine (StateM.run_bind_eq (h p) _).trans ?_
  have hempty := isEmpty_print_template c (p.size + 1)
  cases hc : c.isEmpty with
  | true =>
      rw [hc] at hempty
      simp only [hempty, if_true, print_append, print_text, values_append, values_text,
        values_template, values_of_isEmpty c hc, List.append_nil]
      rfl
  | false =>
      have hopening : " AND (" = " AND " ++ "(" := by decide
      have hclosing : "))" = ")" ++ ")" := by decide
      rw [hc] at hempty
      simp only [hempty, Bool.false_eq_true, if_false, print_append, print_text, print_bracketIf,
        values_append, values_text, values_bracketIf, List.length_nil, Nat.add_zero,
        List.nil_append, List.append_nil]
      cases c.isAny with
      | true =>
          simp only [hopening, hclosing, if_true, String.append_assoc]
          rfl
      | false =>
          simp only [Bool.false_eq_true, if_false, String.append_assoc]
          rfl

mutual

/-- Writing a condition writes its template. -/
theorem isWrittenBy_write : (c : Condition) → c.template.IsWrittenBy c.write
  | all cs => by
      rw [template, write]
      exact isWrittenBy_join (areWrittenBy_writeParts isAny cs) " AND "
  | any cs => by
      rw [template, write]
      exact isWrittenBy_join (areWrittenBy_writeParts isAll cs) " OR "
  | compare _ op v => isWrittenBy_compare op v
  | nullness column isNull => by
      rw [template, write]
      exact isWrittenBy_text _
  | membership _ vs negated => isWrittenBy_membership vs negated
  | range _ lower upper negated => isWrittenBy_range lower upper negated
  | existsRow _ _ c => isWrittenBy_existsRow (isWrittenBy_write c)
  | always => by
      rw [template, write]
      exact isWrittenBy_text _
  | never => by
      rw [template, write]
      exact isWrittenBy_text _

theorem areWrittenBy_writeParts (needed : Condition → Bool) : (cs : List Condition) →
    AreWrittenBy (parts needed cs) (writeParts needed cs)
  | [] => areWrittenBy_nil
  | c :: rest => by
      have ih := areWrittenBy_writeParts needed rest
      rw [parts, writeParts]
      split
      · exact ih
      · exact areWrittenBy_cons (isWrittenBy_write c) (print_bracketIf (needed c) c.template)
          (values_bracketIf (needed c) c.template) ih

end

/-- Behind parameters that are bound already, a condition is written as its template is printed. -/
theorem run_write (c : Condition) (p : Parameters) :
    c.write.run p = ((c.template.printAfter p.values).1, ⟨(c.template.printAfter p.values).2⟩) :=
  isWrittenBy_write c p

/-- Without parameters before it, a condition is written as its statement. -/
theorem run_write_empty (c : Condition) : c.write.run {} = (c.toSql.text, ⟨c.toSql.values⟩) :=
  run_write c {}

end Condition

end FilterQuery
