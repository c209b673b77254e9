import FilterQuery.Query
import FilterQuery.Proofs.Filter.Outline

/-!
# The text of a query

The statement of a query is made from a template, and the template from that of its condition. So
the outline of the condition decides the text and the number of values, and filters of the same form
are sent as the same text.
-/

namespace FilterQuery

open Sql

namespace Query

/-- The template behind the given words: the table, and the condition if it has any text. -/
def template (q : Query) (head : String) (c : Condition) : Template :=
  let source := head ++ " FROM " ++ q.schema.entity.table
  if c.template.isEmpty then Template.text source
  else Template.text (source ++ " WHERE ") ++ c.template

/-- The statement that selects the named columns of the rows that meet a condition. -/
def statement (q : Query) (names : String) (c : Condition) : Statement :=
  let s := (q.template ("SELECT " ++ names) c).toStatement
  { s with text := s.text ++ windowPart "LIMIT" q.limit ++ windowPart "OFFSET" q.offset }

/-- The condition of a query whose schema is valid. -/
def checkedCondition (q : Query) : Except Error Condition := do
  q.schema.validate
  q.condition

theorem select_eq_map (q : Query) (head : String) :
    q.select head = q.checkedCondition.map fun c => (q.template head c).toStatement := by
  rw [select, checkedCondition]
  cases q.schema.validate with
  | error e => rfl
  | ok _ => cases q.condition <;> rfl

variable {q : Query}

/-- With a valid schema, only the condition can fail. -/
theorem select_eq (h : q.schema.IsValid) (head : String) :
    q.select head = q.condition.map fun c => (q.template head c).toStatement := by
  rw [Schema.IsValid] at h
  rw [select_eq_map, checkedCondition, h]
  rfl

theorem build_eq (h : q.schema.IsValid) {names : String} (hnames : q.columnList = .ok names) :
    q.build = q.condition.map (q.statement names) := by
  rw [build, hnames]
  change (q.select ("SELECT " ++ names) >>= _) = _
  rw [select_eq h]
  cases q.condition with
  | error e => rfl
  | ok c => rfl

/-- A query with a single clause has the condition of the clause. -/
theorem condition_of_clauses_eq {clause : Clause} (h : q.clauses = [clause]) :
    q.condition = clause.compile q.schema := by
  rw [condition, h, Clause.buildAll, Clause.buildAll, List.append_nil, Clause.compile]

theorem template_outline (q : Query) (head : String) (c : Condition) :
    q.template head c.outline = (q.template head c).outline := by
  rw [template, template, Condition.template_outline, Template.isEmpty_outline]
  split
  · rfl
  · rw [Template.outline_append, Template.outline_text]

/-- Conditions of one outline are asked for in one text, with equally many values. -/
theorem statement_of_outline_eq {c c' : Condition} (h : c.outline = c'.outline) (names : String) :
    (q.statement names c).text = (q.statement names c').text ∧
      (q.statement names c).values.length = (q.statement names c').values.length := by
  have htemplate : (q.template ("SELECT " ++ names) c).outline =
      (q.template ("SELECT " ++ names) c').outline := by
    rw [← template_outline, ← template_outline, h]
  obtain ⟨htext, hvalues⟩ := Template.toStatement_of_outline_eq htemplate
  refine ⟨?_, hvalues⟩
  rw [statement, statement, htext]

/-- Filters of the same form are sent as the same text with equally many values. -/
theorem text_build_of_sameForms {s : Schema} (h : s.IsValid) {items items' : List Item}
    (hform : Item.SameForms s items items') :
    ∃ clause clause' st st',
      Clause.ofItems s.resolver items = .ok clause ∧
      Clause.ofItems s.resolver items' = .ok clause' ∧
      (Query.filter { schema := s } clause).build = .ok st ∧
      (Query.filter { schema := s } clause').build = .ok st' ∧
      st.text = st'.text ∧ st.values.length = st'.values.length := by
  obtain ⟨clause, clause', c, c', hclause, hclause', hc, hc', houtline⟩ :=
    Clause.exists_compile_of_sameForms h.checked hform
  let q : Query := { schema := s }
  have hbuild : ∀ {clause c}, clause.compile s = .ok c →
      (q.filter clause).build = .ok (q.statement (s.entity.table ++ ".*") c) := by
    intro clause c hc
    have hcondition : (q.filter clause).condition = .ok c :=
      (condition_of_clauses_eq rfl).trans hc
    rw [build_eq (q := q.filter clause) h rfl, hcondition]
    rfl
  exact ⟨clause, clause', _, _, hclause, hclause', hbuild hc, hbuild hc',
    statement_of_outline_eq houtline _⟩

end Query

/-- A test on an attribute, and in a group a list for another and a test on an entity column. -/
def Item.calmOrTitled : List Item :=
  [.test "mood" (.string "calm"),
    .bracket
      [(Item.test "size" (.array [.string "small", .null])).withOperator "in",
        (Item.test "title" (.string "A")).withRelation "or"]]

/-- The same form, filled with fragments of SQL. -/
def Item.fragments : List Item :=
  [(Item.test "x'; DROP TABLE entries; --" (.string "' OR 1=1")).withOperator "=",
    .group (some "AND")
      [(Item.test "$1) OR (1=1" (.array [.array [], .string "\")"])).withOperator "IN",
        (Item.test "title" (.boolean true)).withRelation "Or"]]

theorem Item.sameForms_fragments :
    Item.SameForms .default Item.calmOrTitled Item.fragments := by
  have hmood : Schema.default.SamePlace "mood" "x'; DROP TABLE entries; --" :=
    .inr ⟨by decide, by decide⟩
  have hsize : Schema.default.SamePlace "size" "$1) OR (1=1" := .inr ⟨by decide, by decide⟩
  have htitle : Schema.default.SamePlace "title" "title" := .inl ⟨by decide, rfl⟩
  refine ⟨?_, ?_, trivial⟩
  · exact ⟨⟨.and, rfl, rfl⟩, ⟨_, _, rfl, rfl, hmood⟩, .equal, rfl, rfl, _, _, rfl, rfl,
      by simp, by simp⟩
  · refine ⟨⟨.and, rfl, rfl⟩, ?_, ?_, trivial⟩
    · exact ⟨⟨.and, rfl, rfl⟩, ⟨_, _, rfl, rfl, hsize⟩, .inList, rfl, rfl, _, _, rfl, rfl, rfl⟩
    · exact ⟨⟨.or, rfl, rfl⟩, ⟨_, _, rfl, rfl, htitle⟩, .equal, rfl, rfl, _, _, rfl, rfl,
        by simp, by simp⟩

/-- Fragments of SQL in names and values do not reach the text. -/
theorem Query.text_build_fragments :
    Schema.default.IsValid ∧ Item.SameForms .default Item.calmOrTitled Item.fragments ∧
      ∃ clause clause' st st',
        Clause.ofItems Schema.default.resolver Item.calmOrTitled = .ok clause ∧
        Clause.ofItems Schema.default.resolver Item.fragments = .ok clause' ∧
        (Query.filter { schema := .default } clause).build = .ok st ∧
        (Query.filter { schema := .default } clause').build = .ok st' ∧
        st.text = st'.text ∧ st.values.length = st'.values.length := by
  have hvalid : Schema.default.IsValid := rfl
  exact ⟨hvalid, Item.sameForms_fragments,
    Query.text_build_of_sameForms hvalid Item.sameForms_fragments⟩

end FilterQuery
