import MetricQuery.Grammar.Character
import MetricQuery.Refusal

/-!
# Writing a query

A query is written so that the text reads back as the same query.  What has no form in the query
language is refused.  The values of tags are always written between quotes.

* `Filter.print`  : a filter;
* `Query.print`   : a query;
* `Formula.layout` : how the text of a formula is put together from the texts of its parts.
-/

set_option autoImplicit false

namespace MetricQuery

/-! ## Literals and names -/

/-- A parameter of an aggregate. -/
def Literal.parameterText : Literal → Except Refusal String
  | .int n => .ok (integerText n.toInt)
  | .float x => .ok x.literal
  | .string s => .ok (Text.quote s)
  | other => .error (.unprintableParameter other)

/-- Parameters, one after the other. -/
def Literal.parameterTexts : List Literal → Except Refusal (List String)
  | [] => pure []
  | p :: rest => do
    let first ← p.parameterText
    let others ← parameterTexts rest
    pure (first :: others)

/-- The parameters of an aggregate in parentheses; nothing if it is not curried. -/
def Literal.curryText : Option (List Literal) → Except Refusal String
  | none => pure ""
  | some parameters => do
    let texts ← parameterTexts parameters
    pure ("(" ++ Text.join ", " texts ++ ")")

/-- The name of a column, where the language has a form for it. -/
def Column.print (role : NameRole) (c : Column) : Except Refusal String :=
  if Grammar.isName c.name.toList then .ok c.name else .error (.unprintableName c.name role)

/-- The names of columns. -/
def Column.printAll (role : NameRole) : List Column → Except Refusal (List String)
  | [] => pure []
  | c :: rest => do
    let first ← c.print role
    let others ← printAll role rest
    pure (first :: others)

/-- A resource identifier, between back quotes if it needs them. -/
def mriText (mri : String) : String :=
  if Grammar.isBareMri mri.toList then mri else "\x60" ++ mri ++ "\x60"

/-- A metric by its resource identifier, or else by its public name. -/
def Metric.print (m : Metric) : Except Refusal String :=
  match m.mri, m.publicName with
  | some mri, _ => .ok (mriText mri)
  | none, some name => .ok name
  | none, none => .error .namelessMetric

/-! ## Filters -/

/-- The text that a literal is. -/
def Literal.tagString : Literal → Except Refusal String
  | .string s => .ok s
  | other => .error (.tagValue other)

/-- The texts that literals are, each between quotes. -/
def Literal.tagStrings : List Literal → Except Refusal (List String)
  | [] => pure []
  | item :: rest => do
    let first ← item.tagString
    let others ← tagStrings rest
    pure (Text.quote first :: others)

/-- A text that a tag is equal to.  It must not read back as a pattern. -/
def Literal.exactValue (value : Literal) : Except Refusal String := do
  let s ← value.tagString
  if Grammar.isPrefixPattern s.toList then .error (.exactWildcard s) else pure (Text.quote s)

/-- A pattern that a tag is like.  It is written as it is, since it is read as it stands. -/
def Literal.wildcardValue (value : Literal) : Except Refusal String := do
  let s ← value.tagString
  if Grammar.isPrefixPattern s.toList then pure ("\"" ++ s ++ "\"") else .error (.otherPattern s)

/-- The texts of an array or a tuple in square brackets. -/
def Literal.tagListOf (items : List Literal) : Except Refusal String := do
  let texts ← tagStrings items
  pure ("[" ++ Text.join ", " texts ++ "]")

/-- The list that a tag is in. -/
def Literal.tagList : Literal → Except Refusal String
  | .array items => tagListOf items
  | .tuple items => tagListOf items
  | other => .error (.tagList other)

/-- Whether an operator is written with an exclamation mark, and what stands to its right. -/
def Comparison.valueText (op : Comparison) (value : Literal) : Except Refusal (Bool × String) :=
  match op with
  | .eq => do let text ← value.exactValue; pure (false, text)
  | .neq => do let text ← value.exactValue; pure (true, text)
  | .like => do let text ← value.wildcardValue; pure (false, text)
  | .notLike => do let text ← value.wildcardValue; pure (true, text)
  | .isIn => do let text ← value.tagList; pure (false, text)
  | .notIn => do let text ← value.tagList; pure (true, text)
  | other => .error (.unprintableOperator other)

/-- A condition on a column. -/
def Condition.print (c : Condition) : Except Refusal String :=
  match c.lhs with
  | .column column =>
    match c.rhs with
    | some (.literal value) => do
      let key ← column.print .tag
      let (negated, text) ← c.op.valueText value
      pure ((if negated then "!" else "") ++ key ++ ":" ++ text)
    | _ => .error (.nonLiteralCondition column.name)
  | _ => .error .functionCondition

mutual

/-- A filter.  Groups are written in parentheses. -/
def Filter.print : Filter → Except Refusal String
  | .condition c => c.print
  | .group op members => do
    let texts ← Filter.printAll members
    pure ("(" ++ Text.join (" " ++ op.text ++ " ") texts ++ ")")

/-- The members of a group. -/
def Filter.printAll : List Filter → Except Refusal (List String)
  | [] => pure []
  | f :: rest => do
    let first ← f.print
    let others ← Filter.printAll rest
    pure (first :: others)

end

/-- Filters between braces; nothing if there are none. -/
def bracesText (filters : List Filter) : Except Refusal String :=
  match filters with
  | [] => pure ""
  | filters => do
    let texts ← Filter.printAll filters
    pure ("\x7b" ++ Text.join " AND " texts ++ "\x7d")

/-- A grouping; nothing if there are no columns in it. -/
def groupByText (columns : List Column) : Except Refusal String :=
  match columns with
  | [] => pure ""
  | columns => do
    let names ← Column.printAll .groupBy columns
    pure (" by (" ++ Text.join ", " names ++ ")")

/-- The filters and the grouping that follow a query. -/
def selectionText (filters : Option (List Filter)) (groupby : Option (List Column)) :
    Except Refusal String := do
  let braces ← bracesText (filters.getD [])
  let grouping ← groupByText (groupby.getD [])
  pure (braces ++ grouping)

/-! ## Queries -/

/-- A metric under its aggregate, or alone if it has none. -/
def Timeseries.headText (t : Timeseries) : Except Refusal String := do
  let metric ← t.metric.print
  if t.hasAggregate then
    let parameters ← Literal.curryText t.parameters
    pure (t.aggregate ++ parameters ++ "(" ++ metric ++ ")")
  else pure metric

/-- A timeseries. -/
def Timeseries.print (t : Timeseries) : Except Refusal String := do
  let head ← t.headText
  let selection ← selectionText t.filters t.groupby
  pure (head ++ selection)

/-- A formula from the texts of its operands and of what follows it.  Arithmetic is written with
signs and in parentheses.  Negation is written as a minus; since braces behind its operand would
belong to the operand, it is put in parentheses if something follows. -/
def Formula.layout (function : String) (parameters : Option (List Literal))
    (operands : List String) (selection : String) : Except Refusal String :=
  match ArithmeticOp.ofName? function, parameters with
  | some op, none =>
    pure ("(" ++ Text.join (" " ++ op.sign ++ " ") operands ++ ")" ++ selection)
  | _, _ => do
    let curry ← Literal.curryText parameters
    let args := curry ++ "(" ++ Text.join ", " operands ++ ")"
    if function = negation then
      if selection.isEmpty then pure ("-" ++ args)
      else pure ("(-" ++ args ++ ")" ++ selection)
    else pure (function ++ args ++ selection)

mutual

/-- A formula. -/
def Formula.print : Formula → Except Refusal String
  | ⟨function, parameters, operands, filters, groupby⟩ => do
    let texts ← Operand.printAll operands
    let selection ← selectionText filters groupby
    Formula.layout function parameters texts selection

/-- An operand. -/
def Operand.print : Operand → Except Refusal String
  | .formula f => f.print
  | .timeseries t => t.print
  | .int n => pure (integerText n.toInt)
  | .float x => pure x.literal
  | .string s => pure (Text.quote s)

/-- The operands of a formula. -/
def Operand.printAll : List Operand → Except Refusal (List String)
  | [] => pure []
  | o :: rest => do
    let first ← o.print
    let others ← Operand.printAll rest
    pure (first :: others)

end

/-- A query. -/
def Query.print (q : Query) : Except Refusal String := q.toOperand.print

end MetricQuery
