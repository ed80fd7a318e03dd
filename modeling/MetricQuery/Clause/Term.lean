import MetricQuery.Query

/-!
# The terms of the clause language

Literals, expressions, conditions and filters as the clauses of a query to the store write them.

* `Literal.clauseText`, `Expr.clauseText`, `Condition.clauseText`, `Filter.clauseText`.
-/

set_option autoImplicit false

namespace MetricQuery

/-- A point of time, given by its text. -/
def timeText (text : String) : String := "toDateTime('" ++ text ++ "')"

mutual

/-- A literal. -/
def Literal.clauseText : Literal → String
  | .null => "NULL"
  | .bool b => if b then "TRUE" else "FALSE"
  | .int n => integerText n.toInt
  | .float x => x.literal
  | .string s => Text.quoteSingle s
  | .date d => timeText d.text
  | .moment m => timeText m.instant.bound
  | .array items => "array(" ++ Text.join ", " (Literal.clauseTexts items) ++ ")"
  | .tuple items => "tuple(" ++ Text.join ", " (Literal.clauseTexts items) ++ ")"

/-- Literals, one by one. -/
def Literal.clauseTexts : List Literal → List String
  | [] => []
  | v :: rest => v.clauseText :: Literal.clauseTexts rest

end

/-- The initializers of a curried call in parentheses; nothing if it is not curried. -/
def initializersText : Option (List Literal) → String
  | none => ""
  | some initializers => "(" ++ Text.join ", " (Literal.clauseTexts initializers) ++ ")"

/-- The alias behind a call; nothing if it has none. -/
def aliasText : Option String → String
  | none => ""
  | some name => " AS \x60" ++ name ++ "\x60"

mutual

/-- An expression. -/
def Expr.clauseText : Expr → String
  | .column c => c.name
  | .literal v => v.clauseText
  | .call function initializers parameters label =>
    function ++ initializersText initializers ++
      "(" ++ Text.join ", " (Expr.clauseTexts parameters) ++ ")" ++ aliasText label

/-- Expressions, one by one. -/
def Expr.clauseTexts : List Expr → List String
  | [] => []
  | e :: rest => e.clauseText :: Expr.clauseTexts rest

end

/-- A condition. -/
def Condition.clauseText (c : Condition) : String :=
  c.lhs.clauseText ++ " " ++ c.op.text ++
    match c.rhs with
    | some rhs => " " ++ rhs.clauseText
    | none => ""

mutual

/-- A filter.  Groups are written in parentheses. -/
def Filter.clauseText : Filter → String
  | .condition c => c.clauseText
  | .group op members =>
    "(" ++ Text.join (" " ++ op.text ++ " ") (Filter.clauseTexts members) ++ ")"

/-- Filters, one by one. -/
def Filter.clauseTexts : List Filter → List String
  | [] => []
  | f :: rest => f.clauseText :: Filter.clauseTexts rest

end

end MetricQuery
