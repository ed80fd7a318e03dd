import MetricQuery.Surface
import MetricQuery.Refusal

/-!
# From what a text says to a query

Reducing gives every phrase of the surface tree its meaning.  An aggregate is attached to the
metric it is applied to; a filter or a grouping goes in front of those that are there already;
arithmetic becomes formulas; and variables are refused.

* `Surface.TagFactor.reduce`  : a filter becomes conditions and groups of them;
* `Surface.Expression.reduce` : an expression becomes an operand;
* `Surface.Expression.query`  : an expression becomes a query, unless it is a literal.
-/

set_option autoImplicit false

namespace MetricQuery.Surface

/-! ## Names and metrics -/

/-- A column of the given name, which has to have the form of one. -/
def column (name : String) : Except QueryError Column := do
  QueryError.ofCheck (Column.validate ⟨name⟩)
  pure ⟨name⟩

/-- Columns of the given names. -/
def columns : List String → Except QueryError (List Column)
  | [] => pure []
  | name :: rest => do
    let first ← column name
    let others ← columns rest
    pure (first :: others)

namespace MetricRef

/-- The metric that is referred to. -/
def toMetric : MetricRef → Metric
  | mri name => .ofMri name
  | publicName name => .ofPublicName name

/-- The metric that is referred to, checked. -/
def reduce (m : MetricRef) : Except QueryError Metric := do
  QueryError.ofCheck m.toMetric.validate
  pure m.toMetric

end MetricRef

/-- A parameter as a literal. -/
def Param.toLiteral : Param → Literal
  | int n => .int n
  | float x => .float x
  | string s => .string s

/-! ## Filters -/

/-- Members joined by a connective; one alone is not put into a group. -/
def joined (op : Connective) : List Filter → Filter
  | [f] => f
  | members => .group op members

/-- The operator and the literal that a tag's value stands for. -/
def TagValue.comparison (negated : Bool) : TagValue → Except QueryError (Comparison × Literal)
  | .variable _ => .error (.refused .unboundVariable)
  | string s => .ok (if negated then .neq else .eq, .string s)
  | list items => .ok (if negated then .notIn else .isIn, .ofStrings items)
  | wildcard s => .ok (if negated then .notLike else .like, .string s)

/-- A condition on a tag. -/
def tagCondition (negated : Bool) (key : TagKey) (value : TagValue) :
    Except QueryError Condition := do
  match key with
  | .variable _ => .error (.refused .unboundVariable)
  | .name name => do
    let lhs ← column name
    let (op, rhs) ← value.comparison negated
    pure ⟨.column lhs, op, some (.literal rhs)⟩

mutual

/-- A factor as a filter. -/
def TagFactor.reduce : TagFactor → Except QueryError Filter
  | .condition negated key value => do
    let condition ← tagCondition negated key value
    pure (.condition condition)
  | .nested terms => do
    let members ← reduceTerms terms
    pure (joined .or members)

/-- The factors of a term as filters. -/
def reduceFactors : List TagFactor → Except QueryError (List Filter)
  | [] => pure []
  | factor :: rest => do
    let first ← factor.reduce
    let others ← reduceFactors rest
    pure (first :: others)

/-- The terms of a filter, each the conjunction of its factors. -/
def reduceTerms : List (List TagFactor) → Except QueryError (List Filter)
  | [] => pure []
  | term :: rest => do
    let factors ← reduceFactors term
    let others ← reduceTerms rest
    pure (joined .and factors :: others)

end

/-- A filter: the disjunction of its terms, each the conjunction of its factors. -/
def TagFilter.reduce (terms : TagFilter) : Except QueryError Filter := do
  let members ← reduceTerms terms
  pure (joined .or members)

/-! ## Filters and groupings over a query -/

/-- The query with a filter in front of those that it has. -/
def prependFilter (f : Filter) (q : Query) : Query :=
  q.withFilters (some (f :: q.filters.getD []))

/-- The query with columns in front of those that it is grouped by. -/
def prependGroupby (cs : List Column) (q : Query) : Query :=
  q.withGroupby (some (cs ++ q.groupby.getD []))

/-- The query with the filter in front, if there is one. -/
def addFilter (filters : Option TagFilter) (q : Query) : Except QueryError Query :=
  match filters with
  | none => .ok q
  | some terms => do
    let f ← TagFilter.reduce terms
    pure (prependFilter f q)

/-- The query with the grouping in front, if there is one. -/
def addGroupBy (names : Option (List String)) (q : Query) : Except QueryError Query :=
  match names with
  | none => .ok q
  | some names => do
    let cs ← columns names
    pure (prependGroupby cs q)

/-- A metric with its filter and its grouping, still without an aggregate. -/
def Selection.reduce (s : Selection) : Except QueryError Timeseries := do
  let filters ← match s.filters with
    | none => pure none
    | some terms => do
      let f ← TagFilter.reduce terms
      pure (some [f])
  let groupby ← match s.groupBy with
    | none => pure none
    | some names => do
      let cs ← columns names
      pure (some cs)
  let metric ← s.metric.reduce
  pure { Timeseries.unaggregated metric with filters, groupby }

/-! ## Calls -/

/-- The first operand, if it is a metric without an aggregate. -/
def bareMetric? : List Operand → Option Timeseries
  | .timeseries t :: _ => if t.hasAggregate then none else some t
  | _ => none

/-- A function of operands.  A metric that comes first has to have an aggregate. -/
def applyFunction (name : String) (operands : List Operand) : Except QueryError Query :=
  match bareMetric? operands with
  | some _ => .error (.refused .functionOfMetric)
  | none => .ok (.formula (.new name operands))

/-- A curried function of operands.  It is the aggregate of a metric that has none, which then has
to be the only operand. -/
def applyCurried (name : String) (parameters : List Literal) (operands : List Operand) :
    Except QueryError Query :=
  match bareMetric? operands with
  | some t =>
    if operands.length = 1 then .ok (.timeseries (t.withAggregate name (some parameters)))
    else .error (.refused (.aggregateArguments name))
  | none => .ok (.formula { Formula.new name operands with parameters := some parameters })

/-- A name applied to operands, with parameters if it is curried. -/
def apply (name : String) (params : Option (List Param)) (operands : List Operand) :
    Except QueryError Query :=
  match params with
  | none => applyFunction name operands
  | some params => applyCurried name (params.map Param.toLiteral) operands

/-- The number or the query with the other sign. -/
def negated : Operand → Except QueryError Operand
  | .int n => .ok (.int (-n))
  | .float x => .ok (.float x.negate)
  | .string s => .error (.refused (.negatedString s))
  | .timeseries t => .ok (.formula (.new negation [.timeseries t]))
  | .formula f => .ok (.formula (.new negation [.formula f]))

/-- The query in a pair of parentheses. -/
def parenthesized (o : Operand) : Except QueryError Query :=
  match Query.ofOperand o with
  | .ok q => .ok q
  | .error value => .error (.refused (.literalInParentheses value))

/-! ## Expressions -/

mutual

/-- The operand that an expression stands for. -/
def Expression.reduce : Expression → Except QueryError Operand
  | .term t => t.reduce
  | .binary lhs op rhs => do
    let a ← lhs.reduce
    let b ← rhs.reduce
    pure (.formula (.arithmetic op a b))

/-- The operand that a term stands for. -/
def Term.reduce : Term → Except QueryError Operand
  | .unary u => u.reduce
  | .binary lhs op rhs => do
    let a ← lhs.reduce
    let b ← rhs.reduce
    pure (.formula (.arithmetic op a b))

/-- The operand that a signed coefficient stands for. -/
def Unary.reduce : Unary → Except QueryError Operand
  | .mk isNegated coefficient => do
    let value ← coefficient.reduce
    if isNegated then Surface.negated value else pure value

/-- The operand that a coefficient stands for. -/
def Coefficient.reduce : Coefficient → Except QueryError Operand
  | .int n => pure (.int n)
  | .float x => pure (.float x)
  | .string s => pure (.string s)
  | .filtered target filters groupBy => do
    let q ← target.reduce
    let q ← addFilter filters q
    let q ← addGroupBy groupBy q
    pure q.toOperand

/-- The query that a target stands for. -/
def Target.reduce : Target → Except QueryError Query
  | .variable _ => .error (.refused .unboundVariable)
  | .nested e => do
    let o ← e.reduce
    parenthesized o
  | .call c groupBy => do
    let q ← c.reduce
    addGroupBy groupBy q
  | .metric m => do
    let metric ← m.reduce
    pure (.timeseries (.unaggregated metric))

/-- The query that a call stands for. -/
def Call.reduce : Call → Except QueryError Query
  | .aggregate name params inner => do
    let t ← inner.reduce
    pure (.timeseries (t.withAggregate name (params.map (·.map Param.toLiteral))))
  | .function name params args => do
    let operands ← reduceArguments args
    apply name params operands

/-- The operands that arguments stand for. -/
def reduceArguments : List Expression → Except QueryError (List Operand)
  | [] => pure []
  | arg :: rest => do
    let first ← arg.reduce
    let others ← reduceArguments rest
    pure (first :: others)

end

/-- The query that an expression stands for. -/
def Expression.query (e : Expression) : Except QueryError Query := do
  let o ← e.reduce
  match Query.ofOperand o with
  | .ok q => .ok q
  | .error value => .error (.refused (.literalRoot value))

end MetricQuery.Surface
