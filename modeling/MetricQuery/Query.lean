import MetricQuery.Expr
import MetricQuery.Metric

/-!
# Queries

A query is a timeseries, which aggregates one metric, or a formula over timeseries, formulas and
numbers.  Both may be filtered and grouped.

* `Timeseries`, `Formula`, `Operand`, `Query` : the nodes, each with its check;
* `Formula.series`  : the timeseries a formula reads, depth first and from left to right;
* `Query.same`      : equality of queries;
* `Query.validate`  : the check of a whole query.
-/

set_option autoImplicit false

namespace MetricQuery

/-! ## Timeseries -/

/-- The aggregate of a timeseries that has not been given one yet. -/
def placeholder : String := "AGGREGATE_PLACEHOLDER"

/-- A metric under an aggregate, which is curried if it has parameters. -/
structure Timeseries where
  metric : Metric
  aggregate : String
  parameters : Option (List Literal)
  filters : Option (List Filter)
  groupby : Option (List Column)

/-- Checks the filters and then the columns of a grouping. -/
def validateSelection (filters : Option (List Filter)) (groupby : Option (List Column)) :
    Except Invalid Unit := do
  Filter.validateAll (filters.getD [])
  Invalid.checkAll Column.validate (groupby.getD [])

/-- Equality of filters and groupings. -/
def sameSelection (filters filters' : Option (List Filter))
    (groupby groupby' : Option (List Column)) : Bool :=
  sameOption Filter.sameAll filters filters' && groupby == groupby'

/-- Whether all parameters of an aggregate are numbers and texts. -/
def areParameters (parameters : Option (List Literal)) : Bool :=
  (parameters.getD []).all Literal.isParameter

namespace Timeseries

/-- A metric under an aggregate. -/
def new (metric : Metric) (aggregate : String) : Timeseries :=
  ⟨metric, aggregate, none, none, none⟩

/-- A metric whose aggregate is yet to come. -/
def unaggregated (metric : Metric) : Timeseries := new metric placeholder

/-- Whether the timeseries has its aggregate. -/
def hasAggregate (t : Timeseries) : Bool := t.aggregate != placeholder

/-- The timeseries under another aggregate. -/
def withAggregate (t : Timeseries) (aggregate : String) (parameters : Option (List Literal)) :
    Timeseries :=
  { t with aggregate, parameters }

/-- Checks the metric, the aggregate and its parameters, the filters and the grouping. -/
def validate (t : Timeseries) : Except Invalid Unit := do
  t.metric.validate
  if t.hasAggregate then .ok () else .error .missingAggregate
  if t.aggregate.isEmpty then .error .emptyAggregate else .ok ()
  if areParameters t.parameters then .ok () else .error .aggregateParameter
  validateSelection t.filters t.groupby

/-- Equality that is blind to aliases. -/
def same (a b : Timeseries) : Bool :=
  a.metric == b.metric && a.aggregate == b.aggregate &&
    sameOption Literal.sameItems a.parameters b.parameters &&
    sameSelection a.filters b.filters a.groupby b.groupby

end Timeseries

/-! ## Formulas -/

/-- The function that unary minus over a series stands for. -/
def negation : String := "negate"

mutual

/-- A function of operands, which is curried if it has parameters. -/
structure Formula where
  function : String
  parameters : Option (List Literal)
  operands : List Operand
  filters : Option (List Filter)
  groupby : Option (List Column)

/-- What a formula computes with. -/
inductive Operand where
  | formula (formula : Formula)
  | timeseries (series : Timeseries)
  | int (value : Int64)
  | float (value : Double)
  | string (value : String)

end

namespace Formula

/-- A function of operands. -/
def new (function : String) (operands : List Operand) : Formula :=
  ⟨function, none, operands, none, none⟩

/-- The formula of an operation of arithmetic. -/
def arithmetic (op : ArithmeticOp) (lhs rhs : Operand) : Formula := new op.name [lhs, rhs]

/-- The operation of arithmetic that the function names. -/
def operator? (f : Formula) : Option ArithmeticOp := ArithmeticOp.ofName? f.function

/-- Checks the function, the number of operands and the parameters. -/
def validateHead (function : String) (parameters : Option (List Literal)) (count : Nat) :
    Except Invalid Unit := do
  if function.isEmpty then .error .emptyFunction else .ok ()
  if count = 0 then .error (.noOperands function) else .ok ()
  if (ArithmeticOp.ofName? function).isSome && count != 2 then .error (.operandCount function)
    else .ok ()
  if areParameters parameters then .ok () else .error .formulaParameter

end Formula

mutual

/-- Checks a formula: its head, its operands at every depth, its filters and its grouping. -/
def Formula.validate : Formula → Except Invalid Unit
  | ⟨function, parameters, operands, filters, groupby⟩ => do
    Formula.validateHead function parameters operands.length
    Operand.validateAll operands
    validateSelection filters groupby

/-- Checks an operand; a number has to be finite. -/
def Operand.validate : Operand → Except Invalid Unit
  | .formula f => f.validate
  | .timeseries t => t.validate
  | .float x => if x.isFinite then .ok () else .error (.infiniteOperand x)
  | _ => .ok ()

/-- Checks the operands of a formula, in order. -/
def Operand.validateAll : List Operand → Except Invalid Unit
  | [] => .ok ()
  | o :: rest => do
    o.validate
    Operand.validateAll rest

end

mutual

/-- The timeseries that a formula reads, depth first and from left to right. -/
def Formula.series : Formula → List Timeseries
  | ⟨_, _, operands, _, _⟩ => Operand.seriesAll operands

/-- The timeseries that an operand reads. -/
def Operand.series : Operand → List Timeseries
  | .formula f => f.series
  | .timeseries t => [t]
  | _ => []

/-- The timeseries that operands read, in order. -/
def Operand.seriesAll : List Operand → List Timeseries
  | [] => []
  | o :: rest => o.series ++ Operand.seriesAll rest

end

mutual

/-- Equality that is blind to aliases. -/
def Formula.same : Formula → Formula → Bool
  | ⟨f, ps, os, fs, gs⟩, ⟨f', ps', os', fs', gs'⟩ =>
    f == f' && sameOption Literal.sameItems ps ps' && Operand.sameAll os os' &&
      sameSelection fs fs' gs gs'

/-- Equality of operands. -/
def Operand.same : Operand → Operand → Bool
  | .formula a, .formula b => a.same b
  | .timeseries a, .timeseries b => a.same b
  | .int a, .int b => a == b
  | .float a, .float b => a.sameNumber b
  | .string a, .string b => a == b
  | _, _ => false

/-- Equality of lists of operands, one by one. -/
def Operand.sameAll : List Operand → List Operand → Bool
  | [], [] => true
  | a :: as, b :: bs => a.same b && Operand.sameAll as bs
  | _, _ => false

end

/-! ## Queries -/

/-- The root of a query. -/
inductive Query where
  | timeseries (series : Timeseries)
  | formula (formula : Formula)

namespace Query

/-- The filters at the root. -/
def filters : Query → Option (List Filter)
  | timeseries t => t.filters
  | formula f => f.filters

/-- The grouping at the root. -/
def groupby : Query → Option (List Column)
  | timeseries t => t.groupby
  | formula f => f.groupby

/-- The query with other filters at the root. -/
def withFilters (filters : Option (List Filter)) : Query → Query
  | timeseries t => timeseries { t with filters }
  | formula f => formula { f with filters }

/-- The query with another grouping at the root. -/
def withGroupby (groupby : Option (List Column)) : Query → Query
  | timeseries t => timeseries { t with groupby }
  | formula f => formula { f with groupby }

/-- The query as an operand. -/
def toOperand : Query → Operand
  | timeseries t => .timeseries t
  | formula f => .formula f

/-- The query that an operand is, or else the literal that it is. -/
def ofOperand : Operand → Except Literal Query
  | .timeseries t => .ok (timeseries t)
  | .formula f => .ok (formula f)
  | .int n => .error (.int n)
  | .float x => .error (.float x)
  | .string s => .error (.string s)

/-- Checks the whole query. -/
def validate : Query → Except Invalid Unit
  | timeseries t => t.validate
  | formula f => f.validate

/-- Equality that is blind to aliases. -/
def same (a b : Query) : Bool := a.toOperand.same b.toOperand

/-- The timeseries that the query reads, depth first and from left to right. -/
def series (q : Query) : List Timeseries := q.toOperand.series

/-- The first entity among the metrics of the query. -/
def entity? (q : Query) : Option String := q.series.findSome? fun t => t.metric.entity

/-- The kind of query, as it is logged. -/
def kind : Query → String
  | timeseries _ => "a timeseries"
  | formula _ => "a formula"

@[simp] theorem filters_withFilters (filters : Option (List Filter)) (q : Query) :
    (q.withFilters filters).filters = filters := by
  cases q <;> rfl

@[simp] theorem groupby_withFilters (filters : Option (List Filter)) (q : Query) :
    (q.withFilters filters).groupby = q.groupby := by
  cases q <;> rfl

@[simp] theorem groupby_withGroupby (groupby : Option (List Column)) (q : Query) :
    (q.withGroupby groupby).groupby = groupby := by
  cases q <;> rfl

@[simp] theorem filters_withGroupby (groupby : Option (List Column)) (q : Query) :
    (q.withGroupby groupby).filters = q.filters := by
  cases q <;> rfl

@[simp] theorem withFilters_filters (q : Query) : q.withFilters q.filters = q := by
  obtain t | ⟨_, _, _, _, _⟩ := q <;> rfl

@[simp] theorem withGroupby_groupby (q : Query) : q.withGroupby q.groupby = q := by
  obtain t | ⟨_, _, _, _, _⟩ := q <;> rfl

@[simp] theorem withGroupby_withFilters (filters : Option (List Filter)) (q : Query) :
    (q.withFilters filters).withGroupby q.groupby = q.withFilters filters := by
  cases q <;> rfl

theorem withFilters_withFilters (first last : Option (List Filter)) (q : Query) :
    (q.withFilters first).withFilters last = q.withFilters last := by
  cases q <;> rfl

theorem withGroupby_withGroupby (first last : Option (List Column)) (q : Query) :
    (q.withGroupby first).withGroupby last = q.withGroupby last := by
  cases q <;> rfl

theorem withFilters_withGroupby (filters : Option (List Filter)) (groupby : Option (List Column))
    (q : Query) :
    (q.withGroupby groupby).withFilters filters = (q.withFilters filters).withGroupby groupby := by
  cases q <;> rfl

@[simp] theorem ofOperand_toOperand (q : Query) : ofOperand q.toOperand = .ok q := by
  cases q <;> rfl

end Query

end MetricQuery
