import JoinSheet.Catalog
import JoinSheet.Database.Dialogue
import JoinSheet.Database.Request
import JoinSheet.Error
import JoinSheet.Evaluation.Call
import JoinSheet.Evaluation.Criterion
import JoinSheet.Evaluation.Function
import JoinSheet.Evaluation.Operand
import JoinSheet.Evaluation.Reduce
import JoinSheet.Formula.Grouping
import JoinSheet.Formula.Lexeme
import JoinSheet.Formula.Reference
import JoinSheet.Formula.Scan
import JoinSheet.Formula.Token
import JoinSheet.JoinPath
import JoinSheet.Number.Reading
import JoinSheet.Number.Shortest
import JoinSheet.Number.Writing
import JoinSheet.Pattern.Automaton
import JoinSheet.Pattern.Basic
import JoinSheet.Pattern.Bracket
import JoinSheet.Pattern.ClassName
import JoinSheet.Pattern.Escape
import JoinSheet.Pattern.Flags
import JoinSheet.Pattern.Look
import JoinSheet.Pattern.Normal
import JoinSheet.Pattern.Notation
import JoinSheet.Proofs.Database.Outcome
import JoinSheet.Proofs.Evaluation.Expression
import JoinSheet.Proofs.Formula.Nesting
import JoinSheet.Server.CatalogRow
import JoinSheet.Server.Embedded
import JoinSheet.Server.Remote
import JoinSheet.Server.Scripted
import JoinSheet.Sheet.Basic
import JoinSheet.Sheet.Extra
import JoinSheet.Sheet.Load
import JoinSheet.Sheet.Resolve
import JoinSheet.Sql.Aggregate
import JoinSheet.Sql.Comparison
import JoinSheet.Sql.Constant
import JoinSheet.Sql.Draft
import JoinSheet.Sql.Fragment
import JoinSheet.Sql.Identifier
import JoinSheet.Sql.Like
import JoinSheet.Sql.Params
import JoinSheet.Sql.Placeholder
import JoinSheet.Sql.Select
import JoinSheet.Sql.Write
import JoinSheet.Table
import JoinSheet.Text.Basic
import JoinSheet.Text.CharSet
import JoinSheet.Text.Utf8
import JoinSheet.Unicode.Age
import JoinSheet.Unicode.Break
import JoinSheet.Unicode.Category
import JoinSheet.Unicode.Derived
import JoinSheet.Unicode.Folding
import JoinSheet.Unicode.NamedSet
import JoinSheet.Unicode.Property
import JoinSheet.Unicode.Script
import JoinSheet.Value
import JoinSheet.Workbook.Basic
import JoinSheet.Workbook.Command
import JoinSheet.Write.Insert
import JoinSheet.Write.Order
import JoinSheet.Write.Update
import JoinSheet.Proofs.Evaluation.Call
import JoinSheet.Proofs.Evaluation.Reduction
import JoinSheet.Proofs.Evaluation.Spelling
import JoinSheet.Proofs.Evaluation.Chain
import JoinSheet.Proofs.Evaluation.Value
import JoinSheet.Proofs.Evaluation.Search
import JoinSheet.Proofs.Evaluation.Precedence
import JoinSheet.Proofs.Sql.Fragment
import JoinSheet.Proofs.Sql.Statement
import JoinSheet.Proofs.Database.Transcript
import JoinSheet.Proofs.Write.Insert
import JoinSheet.Proofs.Formula.Reading
import JoinSheet.Proofs.Formula.Language
import JoinSheet.Proofs.Database.Plan
import JoinSheet.Proofs.Write.Change
import JoinSheet.Proofs.Write.Atomic
import JoinSheet.Proofs.Catalog.Memory
import JoinSheet.Proofs.Sql.Source
import JoinSheet.Proofs.Catalog.Path
import JoinSheet.Proofs.Sheet.Tables
import JoinSheet.Proofs.Workbook.Fields
import JoinSheet.Proofs.Workbook.Path
import JoinSheet.Proofs.Formula.Boundary
import JoinSheet.Proofs.Formula.Quoted
import JoinSheet.Proofs.Formula.Moving
import JoinSheet.Proofs.Database.Coincidence
import JoinSheet.Proofs.Sheet.Agreement
import JoinSheet.Proofs.Evaluation.Confinement
import JoinSheet.Proofs.Evaluation.Dependence
import JoinSheet.Proofs.Sheet.Fill
import JoinSheet.Proofs.Sheet.HandWritten
import JoinSheet.Proofs.Sheet.Loading
import JoinSheet.Proofs.Workbook.Change
import JoinSheet.Proofs.Workbook.InPlace
import JoinSheet.Proofs.Workbook.Rows
import JoinSheet.Proofs.Sql.Binding
import JoinSheet.Proofs.Sheet.Reachable
import JoinSheet.Proofs.Write.Acyclic
import JoinSheet.Proofs.Sheet.Values
import JoinSheet.Proofs.Sheet.Settling
import JoinSheet.Proofs.Sheet.Reshape
import JoinSheet.Proofs.Sheet.Columns
import JoinSheet.Proofs.Sheet.Mentions
import JoinSheet.Proofs.Catalog.Told
import JoinSheet.Proofs.Catalog.Offer
import JoinSheet.Proofs.Database.Failure
import JoinSheet.Proofs.Sheet.Resolution
import JoinSheet.Proofs.Evaluation.Failure
import JoinSheet.Proofs.Sheet.Page
import JoinSheet.Proofs.Sheet.Shape
import JoinSheet.Proofs.Sheet.DefaultName
import JoinSheet.Proofs.Sql.Wildcard
import JoinSheet.Proofs.Formula.Naming
import JoinSheet.Proofs.Sheet.Addressing
import JoinSheet.Proofs.Database.Success
import JoinSheet.Proofs.Evaluation.Arguments
import JoinSheet.Proofs.Evaluation.SetFunction
import JoinSheet.Proofs.Formula.Exchange
import JoinSheet.Proofs.Sheet.Spans
import JoinSheet.Proofs.Sheet.Qualified
import JoinSheet.Proofs.Evaluation.WellFormed
import JoinSheet.Proofs.Number.Order
import JoinSheet.Proofs.Evaluation.Comparison
import JoinSheet.Proofs.Evaluation.Condition
import JoinSheet.Proofs.Number.Counting
import JoinSheet.Proofs.Evaluation.Conditional
import JoinSheet.Proofs.Sql.Letter
import JoinSheet.Proofs.Evaluation.Criterion
import JoinSheet.Proofs.Number.Digits
import JoinSheet.Proofs.Formula.Reference
import JoinSheet.Proofs.Formula.Shifting
import JoinSheet.Proofs.Sql.Constant
import JoinSheet.Proofs.Number.Rounding
import JoinSheet.Proofs.Number.Decimal
import JoinSheet.Proofs.Number.Shortest
import JoinSheet.Proofs.Number.RoundTrip
import JoinSheet.Proofs.Evaluation.Preservation
import JoinSheet.Proofs.Sheet.Numbers
import JoinSheet.Proofs.Formula.Spacing
import JoinSheet.Proofs.Sql.Placeholder
import JoinSheet.Proofs.Sheet.FilledValues
import JoinSheet.Proofs.Sql.Filter
import JoinSheet.Proofs.Catalog.Listing
import JoinSheet.Proofs.Write.Update
import JoinSheet.Proofs.Sheet.Layout
import JoinSheet.Proofs.Sheet.Hidden
import JoinSheet.Proofs.Sheet.Enumeration
import JoinSheet.Proofs.Formula.Grouping
import JoinSheet.Proofs.Evaluation.Places
import JoinSheet.Proofs.Evaluation.Termination
