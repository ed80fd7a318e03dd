/-!
# Operators

The operators of the two query languages and how each is written.

* `ArithmeticOp` : plus, minus, multiply and divide, with a name and a sign each;
* `Comparison`   : the operators of a condition, of which two take no right-hand side;
* `Connective`   : what joins the members of a group of conditions.
-/

set_option autoImplicit false

namespace MetricQuery

/-- The four operations of arithmetic. -/
inductive ArithmeticOp where
  | plus
  | minus
  | multiply
  | divide
  deriving DecidableEq, Repr

namespace ArithmeticOp

/-- The function that the operator stands for. -/
def name : ArithmeticOp → String
  | plus => "plus"
  | minus => "minus"
  | multiply => "multiply"
  | divide => "divide"

/-- The sign between two operands. -/
def sign : ArithmeticOp → String
  | plus => "+"
  | minus => "-"
  | multiply => "*"
  | divide => "/"

/-- The operator that a function name stands for. -/
def ofName? (name : String) : Option ArithmeticOp :=
  if name = "plus" then some plus
  else if name = "minus" then some minus
  else if name = "multiply" then some multiply
  else if name = "divide" then some divide
  else none

@[simp] theorem ofName?_name (op : ArithmeticOp) : ofName? op.name = some op := by
  cases op <;> decide

/-- Only an operator's own name stands for it. -/
theorem name_of_ofName? {name : String} {op : ArithmeticOp} (h : ofName? name = some op) :
    op.name = name := by
  unfold ofName? at h
  repeat' split at h
  all_goals first
    | (cases h; subst_vars; rfl)
    | cases h

end ArithmeticOp

/-- The operators of a condition. -/
inductive Comparison where
  | gt
  | lt
  | gte
  | lte
  | eq
  | neq
  | isIn
  | notIn
  | like
  | notLike
  | isNull
  | isNotNull
  deriving DecidableEq, Repr

namespace Comparison

/-- How the operator is written. -/
def text : Comparison → String
  | gt => ">"
  | lt => "<"
  | gte => ">="
  | lte => "<="
  | eq => "="
  | neq => "!="
  | isIn => "IN"
  | notIn => "NOT IN"
  | like => "LIKE"
  | notLike => "NOT LIKE"
  | isNull => "IS NULL"
  | isNotNull => "IS NOT NULL"

/-- Whether the operator takes no right-hand side. -/
def isUnary : Comparison → Bool
  | isNull => true
  | isNotNull => true
  | _ => false

/-- Every operator. -/
def all : List Comparison :=
  [gt, lt, gte, lte, eq, neq, isIn, notIn, like, notLike, isNull, isNotNull]

/-- The operator that is written so. -/
def ofText? (s : String) : Option Comparison := all.find? fun op => op.text == s

@[simp] theorem ofText?_text (op : Comparison) : ofText? op.text = some op := by
  cases op <;> decide

end Comparison

/-- What joins the members of a group of conditions. -/
inductive Connective where
  | and
  | or
  deriving DecidableEq, Repr

/-- How the connective is written. -/
def Connective.text : Connective → String
  | .and => "AND"
  | .or => "OR"

end MetricQuery
