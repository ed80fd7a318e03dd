import MetricQuery.Clause
import MetricQuery.Clause.Term
import MetricQuery.Collapse
import MetricQuery.CommandLine.Arguments
import MetricQuery.CommandLine.Run
import MetricQuery.Envelope
import MetricQuery.Expr
import MetricQuery.Grammar.Character
import MetricQuery.Grammar.Expression
import MetricQuery.Grammar.Filter
import MetricQuery.Grammar.Token
import MetricQuery.Invalid
import MetricQuery.Journal
import MetricQuery.Json
import MetricQuery.Json.Reader
import MetricQuery.Json.Library
import MetricQuery.Literal
import MetricQuery.Main
import MetricQuery.Metric
import MetricQuery.Number.Double
import MetricQuery.Number.Layout
import MetricQuery.Number.Shortest
import MetricQuery.Operator
import MetricQuery.Outline
import MetricQuery.Parse
import MetricQuery.Payload
import MetricQuery.Payload.Json
import MetricQuery.Proofs.Scanning
import MetricQuery.Query
import MetricQuery.Query.Outline
import MetricQuery.Query.Printer
import MetricQuery.Reduce
import MetricQuery.Refusal
import MetricQuery.Rollup
import MetricQuery.Surface
import MetricQuery.Table
import MetricQuery.Text.Blank
import MetricQuery.Text.Join
import MetricQuery.Text.Quoted
import MetricQuery.Text.Ranges
import MetricQuery.Text.Scanner
import MetricQuery.Text.Visible
import MetricQuery.Text.Word
import MetricQuery.Time.Date
import MetricQuery.Time.Instant
import MetricQuery.Time.Reader
import MetricQuery.Proofs.NumberText
import MetricQuery.Proofs.Depth
import MetricQuery.Proofs.Normal
import MetricQuery.Proofs.Outcome
import MetricQuery.Proofs.Accepted
import MetricQuery.Proofs.CollapseMeaning
import MetricQuery.Proofs.Words
import MetricQuery.Proofs.Joints
import MetricQuery.Proofs.FilterText
import MetricQuery.Proofs.CallSites
import MetricQuery.Proofs.Marks
import MetricQuery.Proofs.CallText
import MetricQuery.Proofs.CallCapture
import MetricQuery.Proofs.SuffixText
import MetricQuery.Proofs.TargetText
import MetricQuery.Proofs.ExpressionText
import MetricQuery.Proofs.ArgumentText
import MetricQuery.Proofs.FormulaText
import MetricQuery.Proofs.FunctionText
import MetricQuery.Proofs.Outputs
import MetricQuery.Proofs.Contents
import MetricQuery.Proofs.Checks
import MetricQuery.Proofs.Validity
import MetricQuery.Proofs.QueryText
import MetricQuery.Proofs.ClauseParts
import MetricQuery.Proofs.ClauseScope
import MetricQuery.Proofs.WhereClause
import MetricQuery.Proofs.JsonText
import MetricQuery.Proofs.JsonLaws
import MetricQuery.Proofs.PayloadText
import MetricQuery.Proofs.ListText
import MetricQuery.Proofs.LiteralText
import MetricQuery.Proofs.NameText
import MetricQuery.Proofs.Pushdown
import MetricQuery.Proofs.CollapseValidity
import MetricQuery.Proofs.FiniteNumbers
import MetricQuery.Proofs.ClauseIds
import MetricQuery.Proofs.TagMeaning
import MetricQuery.Proofs.Chains
import MetricQuery.Proofs.Separators
import MetricQuery.Proofs.FaultPlace
import MetricQuery.Proofs.CollapseExact
import MetricQuery.Proofs.Sameness
import MetricQuery.Proofs.ClauseLiterals
import MetricQuery.Proofs.ClauseLines
import MetricQuery.Proofs.Homogeneity
import MetricQuery.Proofs.Identifiers
import MetricQuery.Proofs.ValueText
