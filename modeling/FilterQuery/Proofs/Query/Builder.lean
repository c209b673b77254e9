import FilterQuery.Proofs.Identifier
import FilterQuery.Proofs.Query.Selection

/-!
# A page of rows and the number of all rows

A query is put together by calls in any order. What the calls make of it depends only on the last
columns, the last limit, the last offset and the filters in their order (`run_eq`). The statement
that selects the rows and the one that counts them are then made from the same condition.
`Query.build_iff_buildCount` states that they fail together but for the columns, that their texts
differ in the head and the window only, and that a client is sent just these statements.
-/

namespace FilterQuery

open Sql

namespace Query

/-- A call that puts a query together. -/
inductive Step where
  | columns (names : List String)
  | filter (clause : Clause)
  | limit (n : Int)
  | offset (n : Int)

namespace Step

/-- The columns that a call sets. -/
def columns? : Step → Option (List String)
  | columns names => some names
  | _ => none

/-- The clause that a call adds. -/
def clause? : Step → Option Clause
  | filter clause => some clause
  | _ => none

/-- The limit that a call sets. -/
def limit? : Step → Option Int
  | limit n => some n
  | _ => none

/-- The offset that a call sets. -/
def offset? : Step → Option Int
  | offset n => some n
  | _ => none

end Step

/-- The query after one call. -/
def after (q : Query) : Step → Query
  | .columns names => q.withColumns names
  | .filter clause => q.filter clause
  | .limit n => q.withLimit n
  | .offset n => q.withOffset n

/-- The query after some calls. -/
def run (q : Query) (steps : List Step) : Query := steps.foldl after q

/-- What is set by the last of the calls that set anything of a kind. -/
def last? {α : Type} (kind : Step → Option α) (steps : List Step) : Option α :=
  (steps.filterMap kind).getLast?

section Run

variable (q : Query)

/-- A call replaces what it sets, and a filter comes behind the others. -/
theorem after_eq (step : Step) :
    q.after step =
      { schema := q.schema
        columns := step.columns?.getD q.columns
        clauses := q.clauses ++ step.clause?.toList
        limit := step.limit?.or q.limit
        offset := step.offset?.or q.offset } := by
  cases step with
  | columns names =>
      simp [after, withColumns, Step.clause?, Step.columns?, Step.limit?, Step.offset?]
  | filter clause => rfl
  | limit n => simp [after, withLimit, Step.clause?, Step.columns?, Step.limit?, Step.offset?]
  | offset n => simp [after, withOffset, Step.clause?, Step.columns?, Step.limit?, Step.offset?]

theorem filterMap_cons_eq {α : Type} (kind : Step → Option α) (step : Step) (steps : List Step) :
    (step :: steps).filterMap kind = (kind step).toList ++ steps.filterMap kind := by
  rw [List.filterMap_cons]
  cases kind step with
  | none => rfl
  | some a => rfl

theorem last?_cons {α : Type} (kind : Step → Option α) (step : Step) (steps : List Step) :
    last? kind (step :: steps) = (last? kind steps).or (kind step) := by
  rw [last?, last?, filterMap_cons_eq, List.getLast?_append]
  cases kind step with
  | none => rfl
  | some a => rfl

/-- After some calls, the last one of each kind counts, and all of the filters do. -/
theorem run_eq (steps : List Step) :
    q.run steps =
      { schema := q.schema
        columns := (last? Step.columns? steps).getD q.columns
        clauses := q.clauses ++ steps.filterMap Step.clause?
        limit := (last? Step.limit? steps).or q.limit
        offset := (last? Step.offset? steps).or q.offset } := by
  induction steps generalizing q with
  | nil => simp [run, last?]
  | cons step rest ih =>
      rw [run, List.foldl_cons, ← run, ih, after_eq, last?_cons, last?_cons, last?_cons,
        filterMap_cons_eq, Option.getD_or, Option.or_assoc, Option.or_assoc, List.append_assoc]

end Run

/-- The columns of a statement as they were named, or all columns of the table. -/
def columnText (s : Schema) (names : List String) : String :=
  if names.isEmpty then s.entity.table ++ ".*" else ", ".intercalate names

/-- What is wrong with the first of the columns that is no identifier. -/
def columnProblem? (names : List String) : Option Error :=
  names.findSome? fun name => Outcome.problem? (Identifier.parse name)

theorem columnProblem?_eq_none_iff {names : List String} :
    columnProblem? names = none ↔ ∀ name ∈ names, Identifier.IsText name := by
  simp only [columnProblem?, List.findSome?_eq_none_iff, Outcome.problem?_eq_none_iff,
    Identifier.IsText]

theorem columnProblem?_eq_some_iff {names : List String} {e : Error} :
    columnProblem? names = some e ↔
      ∃ before name behind, names = before ++ name :: behind ∧
        (∀ n ∈ before, Identifier.IsText n) ∧ Identifier.parse name = .error e := by
  simp only [columnProblem?, List.findSome?_eq_some_iff, Outcome.problem?_eq_some_iff,
    Outcome.problem?_eq_none_iff, Identifier.IsText]
  constructor
  · rintro ⟨before, name, behind, hnames, hname, hbefore⟩
    exact ⟨before, name, behind, hnames, hbefore, hname⟩
  · rintro ⟨before, name, behind, hnames, hbefore, hname⟩
    exact ⟨before, name, behind, hnames, hname, hbefore⟩

theorem columnProblem?_cons (name : String) (names : List String) :
    columnProblem? (name :: names) =
      (Outcome.problem? (Identifier.parse name)).or (columnProblem? names) := by
  rw [columnProblem?, List.findSome?_cons]
  cases Outcome.problem? (Identifier.parse name) with
  | none => rfl
  | some e => rfl

/-- Columns are written as they are named. -/
theorem mapM_sql_eq (names : List String) :
    (names.mapM fun name => return (← Identifier.parse name).sql) =
      (columnProblem? names).elim (.ok names) .error := by
  induction names with
  | nil => rfl
  | cons name rest ih =>
      rw [List.mapM_cons, ih, columnProblem?_cons]
      cases hname : Identifier.parse name with
      | error e => rfl
      | ok i =>
          have hsql := (Identifier.sql_of_parse hname).1
          cases columnProblem? rest with
          | none => exact congrArg (fun text => Except.ok (text :: rest)) hsql
          | some e => rfl

variable {q : Query}

theorem columnList_eq (q : Query) :
    q.columnList =
      (columnProblem? q.columns).elim (.ok (columnText q.schema q.columns)) .error := by
  rw [columnList, columnText, mapM_sql_eq]
  cases hcolumns : q.columns with
  | nil => rfl
  | cons name rest => cases columnProblem? (name :: rest) <;> rfl

/-- What stands behind the head of a statement does not depend on the head. -/
theorem toStatement_template (q : Query) (head : String) (c : Condition) :
    (q.template head c).toStatement =
      { text := head ++ (q.template "" c).toStatement.text
        values := (q.template "" c).toStatement.values } := by
  rw [template, template]
  split
  · simp [Template.toStatement, Template.text, Template.print, Template.values,
      String.append_assoc]
  · simp [Template.toStatement, Template.text, Template.print, Template.values,
      String.append_assoc]

theorem buildCount_eq (q : Query) :
    q.buildCount = q.checkedCondition.map fun c =>
      { text := "SELECT COUNT(*)" ++ (q.template "" c).toStatement.text
        values := (q.template "" c).toStatement.values } := by
  simp only [buildCount, select_eq_map, toStatement_template q "SELECT COUNT(*)"]

theorem build_eq_elim (q : Query) :
    q.build = (columnProblem? q.columns).elim
      (q.checkedCondition.map fun c =>
        { text := "SELECT " ++ columnText q.schema q.columns ++
            (q.template "" c).toStatement.text ++ windowPart "LIMIT" q.limit ++
            windowPart "OFFSET" q.offset
          values := (q.template "" c).toStatement.values }) .error := by
  rw [build, columnList_eq]
  cases columnProblem? q.columns with
  | some e => rfl
  | none =>
      change (q.select ("SELECT " ++ columnText q.schema q.columns) >>= _) = _
      rw [select_eq_map]
      cases q.checkedCondition with
      | error e => rfl
      | ok c =>
          exact congrArg (fun st : Statement => Except.ok
            { st with text := st.text ++ windowPart "LIMIT" q.limit ++
                windowPart "OFFSET" q.offset }) (toStatement_template q _ c)

theorem exists_build_iff_exists_buildCount :
    (∃ st, q.build = .ok st) ↔
      (∀ name ∈ q.columns, Identifier.IsText name) ∧ ∃ st, q.buildCount = .ok st := by
  rw [build_eq_elim, buildCount_eq, ← columnProblem?_eq_none_iff]
  cases columnProblem? q.columns with
  | none => cases q.checkedCondition <;> simp [Except.map]
  | some e => simp

/-- A column that is no identifier is reported before anything else. -/
theorem build_eq_error_iff {e : Error} :
    q.build = .error e ↔
      columnProblem? q.columns = some e ∨
        columnProblem? q.columns = none ∧ q.buildCount = .error e := by
  rw [build_eq_elim, buildCount_eq]
  cases columnProblem? q.columns with
  | none => simp [Outcome.map_eq_error_iff]
  | some e' => simp

/-- What both statements have in common stands behind their heads and before the window. -/
theorem texts_of_build {page count : Statement} (hpage : q.build = .ok page)
    (hcount : q.buildCount = .ok count) :
    page.values = count.values ∧
      ∃ rest, count.text = "SELECT COUNT(*)" ++ rest ∧
        page.text = "SELECT " ++ columnText q.schema q.columns ++ rest ++
          windowPart "LIMIT" q.limit ++ windowPart "OFFSET" q.offset := by
  rw [build_eq_elim] at hpage
  cases hcolumns : columnProblem? q.columns with
  | some e =>
      rw [hcolumns] at hpage
      cases hpage
  | none =>
      rw [hcolumns] at hpage
      rw [buildCount_eq] at hcount
      obtain ⟨c, hc, rfl⟩ := Outcome.map_eq_ok_iff.mp hpage
      obtain ⟨d, hd, rfl⟩ := Outcome.map_eq_ok_iff.mp hcount
      cases hc.symm.trans hd
      exact ⟨rfl, _, rfl, rfl⟩

/-- A statement that was sent to a client, and how. -/
inductive Sent where
  | query (statement : Statement)
  | queryOne (statement : Statement)

section Clients

variable {σ ρ : Type}

/-- The client, which also writes down what it is sent. -/
def Client.recorded (client : Client σ ρ) : Client (σ × List Sent) ρ where
  query statement state :=
    let (answer, next) := client.query statement state.1
    (answer, next, state.2 ++ [.query statement])
  queryOne statement state :=
    let (answer, next) := client.queryOne statement state.1
    (answer, next, state.2 ++ [.queryOne statement])

/-- Fetching sends the statement that selects the rows if it builds, and nothing else. -/
theorem fetchAll_recorded (q : Query) (client : Client σ ρ) (state : σ) (sent : List Sent) :
    q.fetchAll client.recorded (state, sent) =
      ((q.fetchAll client state).1, (q.fetchAll client state).2,
        sent ++ q.build.toOption.toList.map Sent.query) := by
  rw [fetchAll, fetchAll]
  cases q.build with
  | error e => simp [Except.toOption]
  | ok statement => rfl

/-- Counting sends the statement that counts the rows if it builds, and nothing else. -/
theorem count_recorded (q : Query) (client : Client σ ρ) (state : σ) (sent : List Sent) :
    q.count client.recorded (state, sent) =
      ((q.count client state).1, (q.count client state).2,
        sent ++ q.buildCount.toOption.toList.map Sent.queryOne) := by
  rw [count, count]
  cases q.buildCount with
  | error e => simp [Except.toOption]
  | ok statement => rfl

end Clients

/-- The query that calls make of a new one. -/
def assembled (s : Schema) (steps : List Step) : Query := run { schema := s } steps

/-- The columns named last, none if no columns are named. -/
def lastColumns (steps : List Step) : List String := (last? Step.columns? steps).getD []

theorem assembled_eq (s : Schema) (steps : List Step) :
    assembled s steps =
      { schema := s
        columns := lastColumns steps
        clauses := steps.filterMap Step.clause?
        limit := last? Step.limit? steps
        offset := last? Step.offset? steps } := by
  rw [assembled, run_eq, List.nil_append, Option.or_none, Option.or_none, lastColumns]

/-- However a query was put together, its rows can be selected exactly if every column named last is
an identifier and the rows can be counted. The first column that is none is reported before anything
else, and any other problem is reported for both. If both statements build they have the same
values, and their texts differ in what stands behind `SELECT` and in the window, which comes last.
Calls with the same last columns, limit and offset and the same filters make the same query. A
client is sent a statement exactly if it builds, and it is sent that statement once. -/
theorem build_iff_buildCount (s : Schema) (steps : List Step) :
    ((∃ st, (assembled s steps).build = .ok st) ↔
        (∀ name ∈ lastColumns steps, Identifier.IsText name) ∧
          ∃ st, (assembled s steps).buildCount = .ok st) ∧
      (∀ before name behind e, lastColumns steps = before ++ name :: behind →
        (∀ n ∈ before, Identifier.IsText n) → Identifier.parse name = .error e →
          (assembled s steps).build = .error e) ∧
      ((∀ name ∈ lastColumns steps, Identifier.IsText name) →
        ∀ e, (assembled s steps).build = .error e ↔ (assembled s steps).buildCount = .error e) ∧
      (∀ page count, (assembled s steps).build = .ok page →
        (assembled s steps).buildCount = .ok count →
          page.values = count.values ∧
            ∃ rest, count.text = "SELECT COUNT(*)" ++ rest ∧
              page.text = "SELECT " ++ columnText s (lastColumns steps) ++ rest ++
                windowPart "LIMIT" (last? Step.limit? steps) ++
                windowPart "OFFSET" (last? Step.offset? steps)) ∧
      (∀ steps', lastColumns steps' = lastColumns steps →
        last? Step.limit? steps' = last? Step.limit? steps →
        last? Step.offset? steps' = last? Step.offset? steps →
        steps'.filterMap Step.clause? = steps.filterMap Step.clause? →
          assembled s steps' = assembled s steps) ∧
      ∀ (σ ρ : Type) (client : Client σ ρ) (state : σ) (sent : List Sent),
        (assembled s steps).fetchAll client.recorded (state, sent) =
            (((assembled s steps).fetchAll client state).1,
              ((assembled s steps).fetchAll client state).2,
              sent ++ (assembled s steps).build.toOption.toList.map Sent.query) ∧
          (assembled s steps).count client.recorded (state, sent) =
            (((assembled s steps).count client state).1,
              ((assembled s steps).count client state).2,
              sent ++ (assembled s steps).buildCount.toOption.toList.map Sent.queryOne) := by
  have hcolumns : (assembled s steps).columns = lastColumns steps := by rw [assembled_eq]
  refine ⟨?_, ?_, ?_, ?_, ?_, ?_⟩
  · rw [exists_build_iff_exists_buildCount, hcolumns]
  · intro before name behind e hnames hbefore hname
    rw [build_eq_error_iff, hcolumns]
    exact .inl (columnProblem?_eq_some_iff.mpr ⟨before, name, behind, hnames, hbefore, hname⟩)
  · intro hnames e
    have hnone := columnProblem?_eq_none_iff.mpr hnames
    rw [build_eq_error_iff, hcolumns, hnone]
    simp
  · intro page count hpage hcount
    obtain ⟨hvalues, rest, hcounted, hselected⟩ := texts_of_build hpage hcount
    refine ⟨hvalues, rest, hcounted, ?_⟩
    rw [hselected, assembled_eq]
  · intro steps' hnames hlimit hoffset hfilters
    rw [assembled_eq, assembled_eq, hnames, hlimit, hoffset, hfilters]
  · intro σ ρ client state sent
    exact ⟨fetchAll_recorded _ client state sent, count_recorded _ client state sent⟩

/-- A page of entries with a title. The first limit and the first columns are replaced later. -/
def titledPage : List Step :=
  [.limit 5, .columns ["1st"], .filter (.test "entries.title" .equal (.string "A")),
    .columns ["entries.id"], .limit 10]

/-- The statements of the page and of its count, the same page from fewer calls, and a page with a
column that is no identifier: this is what is reported, not the filter, which is wrong too. -/
theorem build_titledPage :
    (∃ page count, (assembled .default titledPage).build = .ok page ∧
      (assembled .default titledPage).buildCount = .ok count ∧ page.values = count.values ∧
      ∃ rest, count.text = "SELECT COUNT(*)" ++ rest ∧
        page.text = "SELECT " ++ "entries.id" ++ rest ++ " LIMIT 10" ++ "") ∧
      assembled .default
          [.filter (.test "entries.title" .equal (.string "A")), .columns ["entries.id"],
            .limit 10] = assembled .default titledPage ∧
      (assembled .default titledPage).build ≠ .error (.identifier (.badStart '1')) ∧
      (assembled .default
          [.filter (.test "2nd" .equal .null), .columns ["entries.id", "1st"]]).build =
        .error (.identifier (.badStart '1')) := by
  have hid : ∀ name ∈ ["entries.id"], Identifier.IsText name := by
    intro name hname
    rw [List.mem_singleton.mp hname]
    exact ⟨_, rfl⟩
  obtain ⟨-, -, herror, htexts, hsame, -⟩ := build_iff_buildCount .default titledPage
  obtain ⟨-, hfirst, -⟩ := build_iff_buildCount .default
    [.filter (.test "2nd" .equal .null), .columns ["entries.id", "1st"]]
  have hpage : (assembled .default titledPage).build = .ok _ := rfl
  have hcount : (assembled .default titledPage).buildCount = .ok _ := rfl
  refine ⟨⟨_, _, hpage, hcount, htexts _ _ hpage hcount⟩, hsame _ rfl rfl rfl rfl, ?_, ?_⟩
  · intro hbad
    cases hcount.symm.trans ((herror hid _).mp hbad)
  · exact hfirst ["entries.id"] "1st" [] _ rfl hid rfl

end Query

end FilterQuery
