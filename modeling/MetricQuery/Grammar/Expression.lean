import MetricQuery.Grammar.Filter

/-!
# The grammar of expressions

An expression is a sum of terms, a term a product of signed coefficients, and a coefficient a
number, a text or a target: a variable, an expression in parentheses, a call, or a metric.

* `call`       : the four shapes of a call, in the order in which they are tried;
* `expression` : an expression.
-/

set_option autoImplicit false

namespace MetricQuery.Grammar

open Scanner Surface

/-! ## Calls -/

/-- A parameter of a curried call. -/
def param : Scanner Param :=
  firstOf
    [do let x ← floatNumeral; pure (.float x),
     do let n ← intNumeral; pure (.int n),
     do let s ← quoted; pure (.string s),
     do let s ← unquoted; pure (.string s)]

/-- The name and the parameters of a curried call. -/
def curriedHead : Scanner (String × List Param) := do
  let function ← functionName
  let params ← parens (attempt (sepBy param comma))
  pure (function, params.getD [])

/-- A metric with its filter and its grouping. -/
def selection : Scanner Selection := do
  let m ← metric
  let filters ← optionalBraces
  let grouping ← attempt groupBy
  pure ⟨m, filters, grouping⟩

/-- The arguments of a function. -/
def arguments (expression : Scanner Expression) : Scanner (List Expression) :=
  parens (sepBy expression comma)

/-- A call: first one with parameters of its own and then one without; first one of a metric and
then one of any arguments. -/
def call (expression : Scanner Expression) : Scanner Call :=
  firstOf
    [do
      let (function, params) ← curriedHead
      let inner ← parens selection
      pure (.aggregate function (some params) inner),
     do
      let (function, params) ← curriedHead
      let args ← arguments expression
      pure (.function function (some params) args),
     do
      let function ← functionName
      let inner ← parens selection
      pure (.aggregate function none inner),
     do
      let function ← functionName
      let args ← arguments expression
      pure (.function function none args)]

/-! ## Targets and coefficients -/

/-- What a filter and a grouping apply to. -/
def target (expression : Scanner Expression) : Scanner Target :=
  firstOf
    [do let v ← variableName; pure (.variable v),
     do let e ← parens expression; pure (.nested e),
     do
      let c ← call expression
      let grouping ← attempt groupBy
      pure (.call c grouping),
     do let m ← metric; pure (.metric m)]

/-- A number, a text, or a target with its filter and its grouping. -/
def coefficient (expression : Scanner Expression) : Scanner Coefficient :=
  firstOf
    [do let x ← floatNumeral; pure (.float x),
     do let n ← intNumeral; pure (.int n),
     do let s ← quoted; pure (.string s),
     do
      let t ← target expression
      let filters ← optionalBraces
      let grouping ← attempt groupBy
      pure (.filtered t filters grouping)]

/-- A coefficient, right behind a minus if it is negated. -/
def unary (expression : Scanner Expression) : Scanner Unary := do
  let negated ← flag '-'
  let c ← coefficient expression
  pure (.mk negated c)

/-! ## Terms and expressions -/

/-- One of two signs of arithmetic, with blanks around it. -/
def operator (first second : Char × ArithmeticOp) : Scanner ArithmeticOp := do
  blanks
  let op ← firstOf
    [do char first.1; pure first.2,
     do char second.1; pure second.2]
  blanks
  pure op

/-- A product. -/
def term (expression : Scanner Expression) : Scanner Term := do
  let first ← unary expression
  let rest ← many (do
    let op ← operator ('*', .multiply) ('/', .divide)
    let u ← unary expression
    pure (op, u))
  pure (.ofList first rest)

/-- A sum whose parentheses and arguments are read by `nested`. -/
def expressionOver (nested : Scanner Expression) : Scanner Expression := do
  let first ← term nested
  let rest ← many (do
    let op ← operator ('+', .plus) ('-', .minus)
    let t ← term nested
    pure (op, t))
  pure (.ofList first rest)

/-- An expression with parentheses nested less than `depth` deep. -/
def expressionWithin : Nat → Scanner Expression
  | 0 => fail
  | depth + 1 => expressionOver (expressionWithin depth)

/-- An expression.  Its parentheses are nested no deeper than the text is long. -/
def expression : Scanner Expression := bounded expressionWithin

end MetricQuery.Grammar
