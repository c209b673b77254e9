import FilterQuery.Condition.Sql
import FilterQuery.Scope

/-!
# Queries on the entity table

A query selects rows of the entity table that meet its clauses. The attribute table is reached
through subqueries only, so every entity is selected at most once.
-/

namespace FilterQuery

open Sql

/-- A query: its columns, or all of the table if there are none; its clauses, all in one scope; and
the window of rows asked for. -/
structure Query where
  schema : Schema := .default
  columns : List String := []
  clauses : List Clause := []
  limit : Option Int := none
  offset : Option Int := none

namespace Query

/-- Replaces the columns. -/
def withColumns (q : Query) (columns : List String) : Query := { q with columns }

/-- Adds a clause behind the others; its connective says how it attaches to them. -/
def filter (q : Query) (c : Clause) : Query := { q with clauses := q.clauses ++ [c] }

/-- Replaces the number of rows asked for. -/
def withLimit (q : Query) (n : Int) : Query := { q with limit := some n }

/-- Replaces the number of rows passed over. -/
def withOffset (q : Query) (n : Int) : Query := { q with offset := some n }

/-- The condition of the clauses. -/
def condition (q : Query) : Except Error Condition :=
  (Scope.receiveAll q.schema {} (Clause.buildAll q.clauses)).finish q.schema

/-- The statement that starts with the given words, without its window. The schema is validated
before the clauses are compiled. -/
def select (q : Query) (head : String) : Except Error Statement := do
  q.schema.validate
  let c ← q.condition
  let source := head ++ " FROM " ++ q.schema.entity.table
  let t := c.template
  return Template.toStatement
    (if t.isEmpty then Template.text source else Template.text (source ++ " WHERE ") ++ t)

/-- The columns as they stand in the statement. Each must be an identifier. -/
def columnList (q : Query) : Except Error String := do
  if q.columns.isEmpty then return q.schema.entity.table ++ ".*"
  let names ← q.columns.mapM fun column => return (← Identifier.parse column).sql
  return ", ".intercalate names

/-- A keyword and a number, if there is one. -/
def windowPart (keyword : String) (n : Option Int) : String :=
  n.elim "" fun n => " " ++ keyword ++ " " ++ Text.ofInt n

/-- The statement that selects the rows. -/
def build (q : Query) : Except Error Statement := do
  let columns ← q.columnList
  let s ← q.select ("SELECT " ++ columns)
  return { s with text := s.text ++ windowPart "LIMIT" q.limit ++ windowPart "OFFSET" q.offset }

/-- The statement that counts the rows, whatever the window. -/
def buildCount (q : Query) : Except Error Statement := q.select "SELECT COUNT(*)"

/-- A connection to a database, as far as queries need one. The replies may be of any type and the
connection may keep a state. -/
structure Client (σ ρ : Type) where
  /-- Sends a statement and returns its rows. -/
  query : Statement → σ → Except Error (List ρ) × σ
  /-- Sends a statement and returns the number it answers with. -/
  queryOne : Statement → σ → Except Error Int × σ

variable {σ ρ : Type}

/-- Fetches the selected rows. A query that does not build is not sent. -/
def fetchAll (q : Query) (client : Client σ ρ) (state : σ) : Except Error (List ρ) × σ :=
  match q.build with
  | .ok statement => client.query statement state
  | .error e => (.error e, state)

/-- Counts the selected rows. A query that does not build is not sent. -/
def count (q : Query) (client : Client σ ρ) (state : σ) : Except Error Int × σ :=
  match q.buildCount with
  | .ok statement => client.queryOne statement state
  | .error e => (.error e, state)

end Query

end FilterQuery
