import FilterQuery.Json.Basic
import FilterQuery.Text.Digits

/-!
# SQL templates

A template is SQL text with values in it. Printing one writes a numbered placeholder for each value,
in order; the values themselves never become text.
-/

namespace FilterQuery.Sql

/-- A piece of a template. -/
inductive Piece where
  | text (s : String)
  | value (v : Json)

/-- SQL text with values in it. -/
abbrev Template := List Piece

namespace Template

/-- The template of plain text. -/
def text (s : String) : Template := [.text s]

/-- The template of one value. -/
def value (v : Json) : Template := [.value v]

/-- Templates with text between them. -/
def join (separator : String) : List Template → Template
  | [] => []
  | [t] => t
  | t :: rest => t ++ text separator ++ join separator rest

/-- A template in parentheses. -/
def parenthesized (t : Template) : Template := text "(" ++ t ++ text ")"

/-- The values of a template, in order. -/
def values (t : Template) : List Json :=
  t.filterMap fun
    | .value v => some v
    | .text _ => none

@[simp] theorem values_append (s t : Template) : values (s ++ t) = values s ++ values t := by
  simp [values]

@[simp] theorem values_text (s : String) : values (text s) = [] := rfl

@[simp] theorem values_value (v : Json) : values (value v) = [v] := rfl

/-- The placeholder with a number. -/
def placeholder (n : Nat) : String := "$" ++ Text.ofNat n

/-- The text of a template, its placeholders numbered from `first` on. -/
def print (first : Nat) : Template → String
  | [] => ""
  | .text s :: rest => s ++ print first rest
  | .value _ :: rest => placeholder first ++ print (first + 1) rest

@[simp] theorem print_nil (first : Nat) : print first [] = "" := rfl

@[simp] theorem print_text (first : Nat) (s : String) : print first (text s) = s := by
  simp [text, print]

@[simp] theorem print_value (first : Nat) (v : Json) :
    print first (value v) = placeholder first := by
  simp [value, print]

theorem print_append (first : Nat) (s t : Template) :
    print first (s ++ t) = print first s ++ print (first + s.values.length) t := by
  induction s generalizing first with
  | nil => simp [values]
  | cons p s ih =>
    cases p with
    | text x => simp [print, values, ih, String.append_assoc]
    | value v =>
      simp only [List.cons_append, print, ih, String.append_assoc]
      simp [values, Nat.add_assoc, Nat.add_comm 1]

end Template

/-- SQL text and the values of its placeholders, the first of them being `$1`. -/
structure Statement where
  text : String
  values : List Json

/-- The statement of a template. -/
def Template.toStatement (t : Template) : Statement := ⟨t.print 1, t.values⟩

/-- The text of a template behind values that have placeholders already, and all values. -/
def Template.printAfter (t : Template) (values : List Json) : String × List Json :=
  (t.print (values.length + 1), values ++ t.values)

end FilterQuery.Sql
