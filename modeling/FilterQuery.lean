import FilterQuery.Binding.Parameters
import FilterQuery.Call
import FilterQuery.Clause.Resolve
import FilterQuery.Condition.Correlate
import FilterQuery.Condition.Sql
import FilterQuery.Item.Decode
import FilterQuery.Query
import FilterQuery.Schema.Load
import FilterQuery.Scope
import FilterQuery.Proofs.Condition.Meaning
import FilterQuery.Proofs.Identifier
import FilterQuery.Proofs.Schema.Columns
import FilterQuery.Proofs.Condition.Chain
import FilterQuery.Proofs.Scope.Elements
import FilterQuery.Proofs.Condition.Correlation
import FilterQuery.Proofs.Filter.Basic
import FilterQuery.Proofs.Filter.Compile
import FilterQuery.Proofs.Filter.Meaning
import FilterQuery.Proofs.Condition.Rowwise
import FilterQuery.Proofs.Scope.Flat
import FilterQuery.Proofs.Condition.Subqueries
import FilterQuery.Proofs.Filter.Capture
import FilterQuery.Proofs.Sql.Formula
import FilterQuery.Proofs.Sql.Reading
import FilterQuery.Proofs.Sql.Lexing
import FilterQuery.Proofs.Sql.ReadBack
import FilterQuery.Proofs.Condition.Collection
import FilterQuery.Proofs.Condition.Occurrence
import FilterQuery.Proofs.Condition.Values
import FilterQuery.Proofs.Condition.Outline
import FilterQuery.Proofs.Filter.Leaves
import FilterQuery.Proofs.Filter.Fit
import FilterQuery.Proofs.Filter.Parameters
import FilterQuery.Proofs.Filter.Outline
import FilterQuery.Proofs.Scope.Enclosure
import FilterQuery.Proofs.Query.Outline
import FilterQuery.Proofs.Condition.Text
import FilterQuery.Proofs.Query.Grouping
import FilterQuery.Proofs.Query.Selection
import FilterQuery.Proofs.Item.Parts
import FilterQuery.Proofs.Item.WellFormed
import FilterQuery.Proofs.Item.RoundTrip
import FilterQuery.Proofs.Json.KeyOrder
import FilterQuery.Proofs.Item.KeyOrder
import FilterQuery.Proofs.Condition.NormalForm
import FilterQuery.Proofs.Scope.NormalForm
import FilterQuery.Proofs.Query.Where
import FilterQuery.Proofs.Scope.Reading
import FilterQuery.Proofs.Condition.Marking
import FilterQuery.Proofs.Condition.Bounds
import FilterQuery.Proofs.Condition.Database
import FilterQuery.Proofs.Condition.Stability
import FilterQuery.Proofs.Condition.Placeholders
import FilterQuery.Proofs.Scope.FirstProblem
import FilterQuery.Proofs.Clause.Resolution
import FilterQuery.Proofs.Identifier.Grammar
import FilterQuery.Proofs.Identifier.Spelling
import FilterQuery.Proofs.Schema.Tables
import FilterQuery.Proofs.Clause.References
import FilterQuery.Proofs.Query.Builder
import FilterQuery.Proofs.Text.LowerCase
import FilterQuery.Proofs.Operator.Spelling
import FilterQuery.Proofs.Binding.Bytes
import FilterQuery.Proofs.Text.Blank
import FilterQuery.Proofs.Binding.Integer
import FilterQuery.Proofs.Number.Overflow
import FilterQuery.Proofs.Binding.Float
import FilterQuery.Proofs.Calendar.Notation
import FilterQuery.Proofs.Calendar.Offset
import FilterQuery.Proofs.Calendar.Days
import FilterQuery.Proofs.Binding.Datetime
import FilterQuery.Proofs.Condition.Writer
import FilterQuery.Proofs.Filter.Notation
