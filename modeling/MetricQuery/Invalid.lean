import MetricQuery.Operator
import MetricQuery.Number.Layout

/-!
# What a check can find wrong

Every node of a query can be checked on its own.  A check fails with a cause; the cause tells the
kind of node it was found on and the message for the user.

* `Invalid`         : the causes;
* `Invalid.node`    : the kind of node;
* `Invalid.message` : the message;
* `checkAll_eq_ok_iff` : a list passes a check when every member does.
-/

set_option autoImplicit false

namespace MetricQuery

/-- The kinds of nodes that are checked. -/
inductive NodeKind where
  | column
  | function
  | condition
  | literal
  | metric
  | timeseries
  | formula
  | rollup
  | scope
  deriving DecidableEq, Repr

/-- The storage granularities that there are, in seconds. -/
def granularities : List UInt32 := [10, 60, 3600, 86400]

/-- Why a node is refused. -/
inductive Invalid where
  /-- The name does not have the form of a column. -/
  | columnName (name : String)
  /-- The name does not have the form of a function. -/
  | functionName (name : String)
  /-- The alias of a function does not have the form of one. -/
  | aliasName (name function : String)
  /-- A literal stands to the left of an operator. -/
  | literalLhs
  /-- A right-hand side stands with an operator that takes none. -/
  | extraRhs (op : Comparison)
  /-- No right-hand side stands with an operator that takes one. -/
  | missingRhs (op : Comparison)
  /-- A group has fewer than two members. -/
  | smallGroup
  /-- The items of an array are of different kinds. -/
  | mixedArray
  /-- A literal is an infinity or NaN. -/
  | infiniteLiteral (value : Double)
  /-- A metric has nothing to identify it. -/
  | anonymousMetric
  /-- A public name holds blanks only. -/
  | blankPublicName
  /-- A resource identifier does not have its shape. -/
  | mriShape (mri : String)
  /-- An entity holds blanks only. -/
  | blankEntity
  /-- A timeseries still has the placeholder for its aggregate. -/
  | missingAggregate
  /-- The aggregate of a timeseries is the empty name. -/
  | emptyAggregate
  /-- A parameter of an aggregate is no number or text. -/
  | aggregateParameter
  /-- The function of a formula is the empty name. -/
  | emptyFunction
  /-- A formula has no operands. -/
  | noOperands (function : String)
  /-- An operator of arithmetic does not have exactly two operands. -/
  | operandCount (function : String)
  /-- A parameter of a formula's function is no number or text. -/
  | formulaParameter
  /-- An operand is an infinity or NaN. -/
  | infiniteOperand (value : Double)
  /-- There is no such granularity. -/
  | granularity
  /-- The interval is too short. -/
  | shortInterval (interval : UInt32)
  /-- The interval is shorter than the granularity. -/
  | intervalBelowGranularity
  /-- There is neither an interval nor a wish for totals. -/
  | emptyRollup
  /-- An order is asked for along with an interval. -/
  | orderedIntervals
  /-- The use case is the empty name. -/
  | emptyUseCase
  deriving DecidableEq, Repr

namespace Invalid

/-- The kind of node on which the cause is found. -/
def node : Invalid → NodeKind
  | columnName _ => .column
  | functionName _ | aliasName _ _ => .function
  | literalLhs | extraRhs _ | missingRhs _ | smallGroup => .condition
  | mixedArray | infiniteLiteral _ => .literal
  | anonymousMetric | blankPublicName | mriShape _ | blankEntity => .metric
  | missingAggregate | emptyAggregate | aggregateParameter => .timeseries
  | emptyFunction | noOperands _ | operandCount _ | formulaParameter | infiniteOperand _ => .formula
  | granularity | shortInterval _ | intervalBelowGranularity | emptyRollup | orderedIntervals =>
    .rollup
  | emptyUseCase => .scope

/-- The message for the user. -/
def message : Invalid → String
  | columnName name => "column '" ++ name ++ "' is empty or contains invalid characters"
  | functionName name => "function name '" ++ name ++ "' is invalid"
  | aliasName name function =>
    "alias '" ++ name ++ "' of function " ++ function ++ " contains invalid characters"
  | literalLhs => "invalid condition: LHS must be a Column or Function"
  | extraRhs op => "invalid condition: unary operator " ++ op.text ++ " cannot have a rhs"
  | missingRhs op => "invalid condition: operator " ++ op.text ++ " requires a rhs"
  | smallGroup => "invalid boolean: must supply at least two conditions"
  | mixedArray => "arrays must have the same data type or None"
  | infiniteLiteral value => value.plain ++ " is not a representable number"
  | anonymousMetric => "Metric must have at least one of public_name, mri or id"
  | blankPublicName => "public_name must be a non-empty string"
  | mriShape mri => "mri '" ++ mri ++ "' must have the shape type:namespace/name@unit"
  | blankEntity => "entity must be a non-empty string"
  | missingAggregate => "aggregate must be set on a timeseries"
  | emptyAggregate => "aggregate must be a non-empty string"
  | aggregateParameter => "aggregate_params can only be literal types"
  | emptyFunction => "formula function_name must be a non-empty string"
  | noOperands function => "formula " ++ function ++ " requires at least one parameter"
  | operandCount function =>
    "arithmetic formula " ++ function ++ " requires exactly two parameters"
  | formulaParameter => "aggregate_params can only be literal types"
  | infiniteOperand value =>
    "formula parameter " ++ value.plain ++ " is not a representable number"
  | granularity => "granularity must be an integer and one of [10, 60, 3600, 86400]"
  | shortInterval interval =>
    "interval '" ++ digitsOf interval.toNat ++ "' must be at least 10"
  | intervalBelowGranularity => "interval must be greater than or equal to granularity"
  | emptyRollup => "Rollup must have at least one of interval or totals"
  | orderedIntervals => "Timeseries queries can't be ordered when using interval"
  | emptyUseCase => "use_case_id must be a non-empty string"

/-- Checks every member of a list, in order. -/
def checkAll {α : Type} (check : α → Except Invalid Unit) : List α → Except Invalid Unit
  | [] => .ok ()
  | a :: rest => do
    check a
    checkAll check rest

/-- A list passes when every member does. -/
theorem checkAll_eq_ok_iff {α : Type} {check : α → Except Invalid Unit} {xs : List α} :
    checkAll check xs = .ok () ↔ ∀ a ∈ xs, check a = .ok () := by
  induction xs with
  | nil => simp [checkAll]
  | cons a rest ih =>
    cases h : check a with
    | error e => simp [checkAll, h, bind, Except.bind]
    | ok u => simpa [checkAll, h, bind, Except.bind] using ih

end Invalid

end MetricQuery
