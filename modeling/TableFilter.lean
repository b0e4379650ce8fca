import TableFilter.Text.CharClass
import TableFilter.Text.Case
import TableFilter.Text.Search
import TableFilter.Number.DoubleText
import TableFilter.Decimal.Arithmetic
import TableFilter.Decimal.Text
import TableFilter.Decimal.Double
import TableFilter.Time.Text
import TableFilter.Time.Interval
import TableFilter.Operation
import TableFilter.Builtin.Call
import TableFilter.Statement.OfTokens
import TableFilter.Selection
import TableFilter.Catalog.Document
import TableFilter.Main
import TableFilter.Proofs.Result
import TableFilter.Proofs.Term.Grammar
import TableFilter.Proofs.Term.Reader
import TableFilter.Proofs.Term.Soundness
import TableFilter.Proofs.Term.Completeness
import TableFilter.Proofs.Maintenance
import TableFilter.Proofs.Binding.Resolution
import TableFilter.Proofs.Binding.Soundness
import TableFilter.Proofs.Binding.Completeness
import TableFilter.Proofs.Catalog.Reachable
import TableFilter.Proofs.Evaluation.Reference
import TableFilter.Proofs.Evaluation.Cache
import TableFilter.Proofs.Value.Types
import TableFilter.Proofs.Value.Doubles
import TableFilter.Proofs.Value.Order
import TableFilter.Proofs.Builtin.Faults
import TableFilter.Proofs.Evaluation.Soundness
import TableFilter.Proofs.Selection.Sorting
import TableFilter.Proofs.Selection.Rows
import TableFilter.Proofs.Decimal.Text
import TableFilter.Proofs.Guid
import TableFilter.Proofs.Number.DoubleText
import TableFilter.Proofs.Binding.Remembering
import TableFilter.Proofs.Catalog.Calls
import TableFilter.Proofs.Planning
import TableFilter.Proofs.Selection.Filters
import TableFilter.Proofs.Statement.Joining
import TableFilter.Proofs.Selection.Single
import TableFilter.Proofs.Selection.EntryPoints
import TableFilter.Proofs.Selection.Identifiers
import TableFilter.Proofs.Selection.Tracking
import TableFilter.Proofs.Evaluation.Agreement
import TableFilter.Proofs.Binding.Widening
import TableFilter.Proofs.Selection.Extending
import TableFilter.Proofs.Reporting
import TableFilter.Proofs.Selection.Recasing
import TableFilter.Proofs.Binding.Errors
import TableFilter.Proofs.Binding.Stack
import TableFilter.Proofs.Binding.Cycles
import TableFilter.Proofs.Operation.Types
import TableFilter.Proofs.Operation.Soundness
import TableFilter.Proofs.Operation.Refusals
import TableFilter.Proofs.Operation.Comparisons
import TableFilter.Proofs.Value.ExactNumbers
import TableFilter.Proofs.Evaluation.Eager
import TableFilter.Proofs.Text.UpperCase
import TableFilter.Proofs.Evaluation.Membership
import TableFilter.Proofs.Evaluation.Relaxing
import TableFilter.Proofs.Operation.Likeness
import TableFilter.Proofs.Literal.Evaluation
import TableFilter.Proofs.Literal.Numbers
import TableFilter.Proofs.Time.Calendar
import TableFilter.Proofs.Time.Text
import TableFilter.Proofs.Literal.ReadBack
import TableFilter.Proofs.Decimal.Places
import TableFilter.Proofs.Value.ReadBack
import TableFilter.Proofs.Value.Narrowing
import TableFilter.Proofs.Operation.Integers
import TableFilter.Proofs.Text.Search
import TableFilter.Proofs.Builtin.Positions
import TableFilter.Proofs.Text.Parts
import TableFilter.Proofs.Text.Folding
import TableFilter.Proofs.Builtin.Containment
import TableFilter.Proofs.Builtin.Parts
import TableFilter.Proofs.Time.Elapsed
import TableFilter.Proofs.Builtin.Dates
import TableFilter.Proofs.Number.Monotone
import TableFilter.Proofs.Value.Ranking
import TableFilter.Proofs.Builtin.Extremes
import TableFilter.Proofs.Token.Spans
import TableFilter.Proofs.Selection.Keys
import TableFilter.Proofs.Builtin.Inspections
import TableFilter.Proofs.Catalog.RowDocuments
import TableFilter.Proofs.Token.Writing
import TableFilter.Proofs.Term.Operands
import TableFilter.Proofs.Rereading.Basic
import TableFilter.Proofs.Literal.Operands
import TableFilter.Proofs.Rereading.Expressions
import TableFilter.Proofs.Rereading.Binding
import TableFilter.Proofs.Rereading.Meaning
import TableFilter.Proofs.Rereading.Statements
import TableFilter.Proofs.Rereading.Filters
