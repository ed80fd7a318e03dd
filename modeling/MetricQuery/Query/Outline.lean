import MetricQuery.Query

/-!
# Queries as a reader is shown them

* `Metric.outline` : a metric;
* `Query.outline`  : a query, down to its literals.
-/

set_option autoImplicit false

namespace MetricQuery

/-- A metric. -/
def Metric.outline (m : Metric) : Outline :=
  .record "Metric"
    [("public_name", .option .text m.publicName),
     ("mri", .option .text m.mri),
     ("id", .option (fun id => .int id.toNat) m.id),
     ("entity", .option .text m.entity)]

/-- A column. -/
def Column.outline (c : Column) : Outline := .record "Column" [("name", .text c.name)]

/-- An operator. -/
def Comparison.outline (op : Comparison) : Outline :=
  .atom <| match op with
    | .gt => "Gt"
    | .lt => "Lt"
    | .gte => "Gte"
    | .lte => "Lte"
    | .eq => "Eq"
    | .neq => "Neq"
    | .isIn => "In"
    | .notIn => "NotIn"
    | .like => "Like"
    | .notLike => "NotLike"
    | .isNull => "IsNull"
    | .isNotNull => "IsNotNull"

/-- A connective. -/
def Connective.outline : Connective → Outline
  | .and => .atom "And"
  | .or => .atom "Or"

/-- Literals that may be absent. -/
def Literal.outlineOption : Option (List Literal) → Outline :=
  .option fun items => .list (outlineItems items)

mutual

/-- An expression. -/
def Expr.outline : Expr → Outline
  | .column c => .tuple "Column" [c.outline]
  | .literal v => .tuple "Scalar" [v.outline]
  | .call function initializers parameters label =>
    .tuple "Function"
      [.record "Function"
        [("function", .text function),
         ("initializers", Literal.outlineOption initializers),
         ("parameters", .list (Expr.outlineAll parameters)),
         ("alias", .option .text label)]]

/-- Expressions, one by one. -/
def Expr.outlineAll : List Expr → List Outline
  | [] => []
  | e :: rest => e.outline :: Expr.outlineAll rest

end

/-- A condition. -/
def Condition.outline (c : Condition) : Outline :=
  .record "Condition"
    [("lhs", c.lhs.outline), ("op", c.op.outline), ("rhs", .option Expr.outline c.rhs)]

mutual

/-- A filter. -/
def Filter.outline : Filter → Outline
  | .condition c => .tuple "Condition" [c.outline]
  | .group op members =>
    .tuple "Boolean"
      [.record "BooleanCondition"
        [("op", op.outline), ("conditions", .list (Filter.outlineAll members))]]

/-- Filters, one by one. -/
def Filter.outlineAll : List Filter → List Outline
  | [] => []
  | f :: rest => f.outline :: Filter.outlineAll rest

end

/-- The filters and the grouping of a query. -/
def selectionFields (filters : Option (List Filter)) (groupby : Option (List Column)) :
    List (String × Outline) :=
  [("filters", .option (fun fs => .list (Filter.outlineAll fs)) filters),
   ("groupby", .option (fun cs => .list (cs.map Column.outline)) groupby)]

/-- A timeseries. -/
def Timeseries.outline (t : Timeseries) : Outline :=
  .record "Timeseries"
    ([("metric", t.metric.outline),
      ("aggregate", .text t.aggregate),
      ("aggregate_params", Literal.outlineOption t.parameters)] ++
      selectionFields t.filters t.groupby)

mutual

/-- A formula. -/
def Formula.outline : Formula → Outline
  | ⟨function, parameters, operands, filters, groupby⟩ =>
    .record "Formula"
      ([("function_name", .text function),
        ("aggregate_params", Literal.outlineOption parameters),
        ("parameters", .list (Operand.outlineAll operands))] ++
        selectionFields filters groupby)

/-- An operand. -/
def Operand.outline : Operand → Outline
  | .formula f => .tuple "Formula" [f.outline]
  | .timeseries t => .tuple "Timeseries" [t.outline]
  | .int n => .tuple "Int" [.int n.toInt]
  | .float x => .tuple "Float" [.atom x.shown]
  | .string s => .tuple "String" [.text s]

/-- Operands, one by one. -/
def Operand.outlineAll : List Operand → List Outline
  | [] => []
  | o :: rest => o.outline :: Operand.outlineAll rest

end

/-- A query. -/
def Query.outline (q : Query) : Outline := q.toOperand.outline

end MetricQuery
