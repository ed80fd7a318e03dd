import MetricQuery.Operator
import MetricQuery.Number.Double

/-!
# What a query text says

The surface tree has one node for each phrase of the language.  Nothing is resolved in it yet:
filters stand where they were written, variables are still there, and a name followed by arguments
is not yet known to be an aggregate or a function.

* `TagFilter`  : what stands between braces, a list of alternatives of lists of factors;
* `Expression` : sums of products of signed coefficients.
-/

set_option autoImplicit false

namespace MetricQuery.Surface

/-! ## Leaves -/

/-- A metric as it is written. -/
inductive MetricRef where
  | mri (name : String)
  | publicName (name : String)
  deriving DecidableEq, Repr

/-- A parameter of a curried call. -/
inductive Param where
  | int (value : Int64)
  | float (value : Double)
  | string (value : String)

/-- The left-hand side of a condition on a tag. -/
inductive TagKey where
  | name (name : String)
  | variable (name : String)

/-- The right-hand side of a condition on a tag. -/
inductive TagValue where
  /-- A pattern, with the star at its end. -/
  | wildcard (pattern : String)
  | string (value : String)
  | list (items : List String)
  | variable (name : String)

/-! ## Filters -/

/-- A condition on a tag, or a filter in parentheses: alternatives, each of them a list of
factors. -/
inductive TagFactor where
  | condition (negated : Bool) (key : TagKey) (value : TagValue)
  | nested (terms : List (List TagFactor))

/-- Factors that hold together. -/
abbrev TagTerm := List TagFactor

/-- Terms one of which holds. -/
abbrev TagFilter := List TagTerm

/-- A metric with the filter and the grouping that follow it. -/
structure Selection where
  metric : MetricRef
  filters : Option TagFilter
  groupBy : Option (List String)

/-! ## Expressions -/

mutual

/-- Terms that are added and subtracted, from left to right. -/
inductive Expression where
  | term (term : Term)
  | binary (lhs : Expression) (op : ArithmeticOp) (rhs : Term)

/-- Signed coefficients that are multiplied and divided, from left to right. -/
inductive Term where
  | unary (unary : Unary)
  | binary (lhs : Term) (op : ArithmeticOp) (rhs : Unary)

/-- A coefficient, behind a minus if it is negated. -/
inductive Unary where
  | mk (negated : Bool) (coefficient : Coefficient)

/-- A number, a text, or a target with the filter and the grouping that follow it. -/
inductive Coefficient where
  | int (value : Int64)
  | float (value : Double)
  | string (value : String)
  | filtered (target : Target) (filters : Option TagFilter) (groupBy : Option (List String))

/-- What a filter and a grouping apply to. -/
inductive Target where
  | variable (name : String)
  | nested (expression : Expression)
  | call (call : Call) (groupBy : Option (List String))
  | metric (metric : MetricRef)

/-- A name followed by one metric or by a list of arguments.  A curried call has parameters of its
own in front of these. -/
inductive Call where
  | aggregate (name : String) (params : Option (List Param)) (inner : Selection)
  | function (name : String) (params : Option (List Param)) (args : List Expression)

end

namespace Expression

/-- Terms joined by operators, from left to right. -/
def ofList (first : Term) (rest : List (ArithmeticOp × Term)) : Expression :=
  rest.foldl (fun lhs step => binary lhs step.1 step.2) (term first)

/-- The terms of an expression and the operators between them. -/
def toList : Expression → Term × List (ArithmeticOp × Term)
  | term t => (t, [])
  | binary lhs op rhs => (lhs.toList.1, lhs.toList.2 ++ [(op, rhs)])

end Expression

namespace Term

/-- Signed coefficients joined by operators, from left to right. -/
def ofList (first : Unary) (rest : List (ArithmeticOp × Unary)) : Term :=
  rest.foldl (fun lhs step => binary lhs step.1 step.2) (unary first)

/-- The signed coefficients of a term and the operators between them. -/
def toList : Term → Unary × List (ArithmeticOp × Unary)
  | unary u => (u, [])
  | binary lhs op rhs => (lhs.toList.1, lhs.toList.2 ++ [(op, rhs)])

end Term

end MetricQuery.Surface
