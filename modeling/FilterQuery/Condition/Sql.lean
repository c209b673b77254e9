import FilterQuery.Condition
import FilterQuery.Sql.Template

/-!
# Conditions as SQL

A condition becomes a fragment of a WHERE clause. Empty parts are left out; an `OR` under an `AND`,
an `AND` under an `OR` and an `OR` behind a correlation get parentheses.
-/

namespace FilterQuery.Condition

open Sql

/-- The condition is a disjunction. -/
def isAny : Condition → Bool
  | any _ => true
  | _ => false

/-- The condition is a conjunction. -/
def isAll : Condition → Bool
  | all _ => true
  | _ => false

/-- A template, in parentheses if asked for. -/
def bracketIf (needed : Bool) (t : Template) : Template := if needed then t.parenthesized else t

/-- The template of membership in a list. -/
def membershipTemplate (column : String) (values : List Json) (negated : Bool) : Template :=
  if values.isEmpty then Template.text (if negated then "1=1" else "1=0")
  else
    Template.text (column ++ (if negated then " NOT IN (" else " IN (")) ++
      Template.join ", " (values.map Template.value) ++ Template.text ")"

mutual

/-- The template of a condition; it is empty exactly when the condition is. -/
def template : Condition → Template
  | all cs => Template.join " AND " (parts isAny cs)
  | any cs => Template.join " OR " (parts isAll cs)
  | compare column op v => Template.text (column ++ " " ++ op.sql ++ " ") ++ Template.value v
  | nullness column isNull =>
    Template.text (column ++ (if isNull then " IS NULL" else " IS NOT NULL"))
  | membership column values negated => membershipTemplate column values negated
  | range column lower upper negated =>
    Template.text (column ++ (if negated then " NOT BETWEEN " else " BETWEEN ")) ++
      Template.value lower ++ Template.text " AND " ++ Template.value upper
  | existsRow table correlation c =>
    Template.text ("EXISTS (SELECT 1 FROM " ++ table ++ " WHERE " ++ correlation) ++
      (if isEmpty c then [] else Template.text " AND " ++ bracketIf (isAny c) (template c)) ++
      Template.text ")"
  | always => Template.text "1=1"
  | never => Template.text "1=0"

/-- The templates of the conditions that are not empty, some of them in parentheses. -/
def parts (needsBrackets : Condition → Bool) : List Condition → List Template
  | [] => []
  | c :: rest =>
    if isEmpty c then parts needsBrackets rest
    else bracketIf (needsBrackets c) (template c) :: parts needsBrackets rest

end

/-- A condition as SQL text with its values. -/
def toSql (c : Condition) : Statement := c.template.toStatement

end FilterQuery.Condition
