import MetricQuery.Query
import MetricQuery.Text.Scanner

/-!
# Why a query is refused

A query that cannot be read, written or run is refused with a cause.

* `SyntaxFault`        : the text is not a query, with the place where reading stopped;
* `ErrorMode.describe` : what a scanner failed at, in words;
* `Refusal`            : the query says something that is not supported or cannot be written;
* `QueryError`         : either of them, or what a check found wrong;
* `QueryError.message` : the message for the user.
-/

set_option autoImplicit false

namespace MetricQuery

/-- How a scanner fails. -/
inductive ErrorMode where
  /-- The text ends, and might go on. -/
  | incomplete
  /-- What should come next is not there; something else may be. -/
  | backtrack (error : ScanError)
  /-- What should come next is not there, and nothing else may be. -/
  | cut (error : ScanError)
  deriving DecidableEq, Repr

/-- What is wrong where a scanner fails; `render` puts an error into words. -/
def ErrorMode.describe (render : ScanError → String) : ErrorMode → String
  | incomplete => "unexpected end of input"
  | backtrack error | cut error =>
    if (render error).isEmpty then "expected a timeseries, formula or number" else render error

/-- What is wrong with a text that is not a query. -/
inductive SyntaxCause where
  /-- A query stands at the start of the text, and more behind it. -/
  | trailing
  /-- No query stands at the start of the text. -/
  | failed (mode : ErrorMode)
  deriving DecidableEq, Repr

/-- Where reading stopped, and why. -/
structure SyntaxFault where
  cause : SyntaxCause
  /-- How many bytes stand in front of the place. -/
  offset : Nat
  line : Nat
  column : Nat
  deriving DecidableEq, Repr

namespace SyntaxFault

/-- The cause in words; `render` puts an error of a scanner into words. -/
def causeText (render : ScanError → String) (f : SyntaxFault) : String :=
  match f.cause with
  | .trailing => "unexpected trailing input"
  | .failed mode => mode.describe render

/-- The cause in words, and the place. -/
def message (f : SyntaxFault) : String :=
  f.causeText ScanError.text ++ " (line " ++ digitsOf f.line ++ ", column " ++ digitsOf f.column ++
    ", offset " ++ digitsOf f.offset ++ ")"

end SyntaxFault

/-- Where a column is named in a query text. -/
inductive NameRole where
  | tag
  | groupBy
  deriving DecidableEq, Repr

/-- The role in words. -/
def NameRole.text : NameRole → String
  | tag => "tag"
  | groupBy => "group by"

/-- The parts that every metrics query has to have. -/
inductive Part where
  | query
  | start
  | ending
  | rollup
  | scope
  deriving DecidableEq, Repr

/-- The name of the part. -/
def Part.text : Part → String
  | query => "query"
  | start => "start"
  | ending => "end"
  | rollup => "rollup"
  | scope => "scope"

/-- What is not supported, cannot be written, or is missing. -/
inductive Refusal where
  /-- The whole text is a literal. -/
  | literalRoot (value : Literal)
  /-- A literal stands alone in parentheses. -/
  | literalInParentheses (value : Literal)
  /-- A minus stands in front of a text. -/
  | negatedString (value : String)
  /-- A variable stands where a value is needed. -/
  | unboundVariable
  /-- A function takes a metric without an aggregate. -/
  | functionOfMetric
  /-- A curried aggregate takes more than its metric. -/
  | aggregateArguments (name : String)
  /-- A metric has no name to write. -/
  | namelessMetric
  /-- A parameter has no form in a query text. -/
  | unprintableParameter (value : Literal)
  /-- A column's name has no form in a query text. -/
  | unprintableName (name : String) (role : NameRole)
  /-- The left-hand side of a condition is no column. -/
  | functionCondition
  /-- The right-hand side of a condition on the column is no literal. -/
  | nonLiteralCondition (column : String)
  /-- The operator has no form in a query text. -/
  | unprintableOperator (op : Comparison)
  /-- A tag is compared with what is no text. -/
  | tagValue (value : Literal)
  /-- A text would read back as a pattern. -/
  | exactWildcard (value : String)
  /-- A pattern does not match by the start of a text. -/
  | otherPattern (value : String)
  /-- A tag is looked for in what is no list. -/
  | tagList (value : Literal)
  /-- A part is missing. -/
  | missing (part : Part)
  /-- The rollup has no granularity. -/
  | noGranularity
  /-- The limit is zero. -/
  | smallLimit (limit : UInt32)
  /-- The limit is above the greatest there is. -/
  | largeLimit (limit : UInt32)
  /-- A formula has no form in the clause language. -/
  | formulaClauses
  /-- The metric has no entity to read from. -/
  | noEntity
  /-- The metric has no number to look for. -/
  | noMetricId

namespace Refusal

/-- The message for the user. -/
def message : Refusal → String
  | literalRoot value =>
    "MQL query must be a Timeseries or Formula, got " ++ value.outline.inline
  | literalInParentheses value =>
    "parenthesized expression must be a Timeseries or Formula, got " ++ value.outline.inline
  | negatedString value => "Unary expression not supported for string \"" ++ value ++ "\""
  | unboundVariable => "Variables are not supported yet"
  | functionOfMetric => "Cannot use arbitrary functions on a Timeseries without an aggregate"
  | aggregateArguments name =>
    "curried aggregate " ++ name ++ " takes a single timeseries argument"
  | namelessMetric => "metric.mri or metric.public_name is required for serialization"
  | unprintableParameter value =>
    "aggregate parameter " ++ value.outline.inline ++ " cannot be printed as MQL"
  | unprintableName name role =>
    "column '" ++ name ++ "' cannot be used as an MQL " ++ role.text ++ " name"
  | functionCondition => "MQL filters only support column conditions"
  | nonLiteralCondition column => "MQL filter on " ++ column ++ " needs a literal value"
  | unprintableOperator op => "operator " ++ op.text ++ " is not supported in MQL filters"
  | tagValue value =>
    value.outline.inline ++ " cannot be used as an MQL tag value, tag values are strings"
  | exactWildcard value => "value \"" ++ value ++ "\" would read back as a wildcard match"
  | otherPattern value =>
    "pattern \"" ++ value ++ "\" is not a prefix wildcard and has no MQL form"
  | tagList value => value.outline.inline ++ " cannot be used as an MQL tag list"
  | missing part => part.text ++ " is required for a metrics query"
  | noGranularity => "granularity must be set on the rollup"
  | smallLimit limit => "limit '" ++ digitsOf limit.toNat ++ "' must be at least 1"
  | largeLimit limit => "limit '" ++ digitsOf limit.toNat ++ "' is capped at 10,000"
  | formulaClauses => "formula queries cannot be printed as SnQL"
  | noEntity => "metric.entity is required for serialization"
  | noMetricId => "metric.id is required for serialization"

end Refusal

/-- Why a query cannot be read, written or run. -/
inductive QueryError where
  | badSyntax (fault : SyntaxFault)
  | refused (cause : Refusal)
  | invalid (cause : Invalid)

namespace QueryError

/-- The message for the user. -/
def message : QueryError → String
  | badSyntax fault => "Invalid metrics syntax: " ++ fault.message
  | refused cause => cause.message
  | invalid cause => cause.message

/-- The message of the fault below, if the error is there because of one. -/
def cause? : QueryError → Option String
  | badSyntax fault => some fault.message
  | refused _ => none
  | invalid cause => some cause.message

/-- The outcome of a check, as the outcome of what needs it. -/
def ofCheck {α : Type} : Except Invalid α → Except QueryError α
  | .ok a => .ok a
  | .error cause => .error (.invalid cause)

end QueryError

end MetricQuery
