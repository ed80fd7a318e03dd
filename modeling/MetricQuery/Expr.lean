import MetricQuery.Literal
import MetricQuery.Text.Word

/-!
# Columns, functions, conditions and filters

What filters and groupings are made of.  Two functions that differ in their aliases only are the
same: an alias names the output and does not change what is computed.

* `Column`, `Expr`, `Condition`, `Filter` : the nodes, each with its check;
* `Expr.same`, `Condition.same`, `Filter.same` : equality that is blind to aliases.
-/

set_option autoImplicit false

namespace MetricQuery

/-! ## Columns -/

/-- A tag or dimension. -/
structure Column where
  name : String
  deriving DecidableEq, Repr

/-- Columns are in the order of their names. -/
instance : Ord Column := ⟨fun a b => compare a.name b.name⟩

namespace Column

/-- What a column name may begin with. -/
def isStart (c : Char) : Bool := c.isAlpha || c == '_'

/-- What a column name may go on with. -/
def isPart (c : Char) : Bool := Text.isWord c || c == '.' || c == ':'

/-- Nothing, or a text between square brackets that holds none itself. -/
def isSuffix : List Char → Bool
  | [] => true
  | '[' :: inner => inner.dropWhile (fun c => c != '[' && c != ']') == [']']
  | _ => false

/-- A start, parts, and a suffix in square brackets if there is one. -/
def isName : List Char → Bool
  | [] => false
  | c :: rest => isStart c && isSuffix (rest.dropWhile isPart)

/-- Checks the form of the name. -/
def validate (c : Column) : Except Invalid Unit :=
  if isName c.name.toList then .ok () else .error (.columnName c.name)

end Column

/-! ## Expressions -/

/-- A column, a call of a function, or a literal.  A call with initializers is curried. -/
inductive Expr where
  | column (column : Column)
  | call (function : String) (initializers : Option (List Literal)) (parameters : List Expr)
      (label : Option String)
  | literal (value : Literal)

namespace Expr

/-- What the name of a function may go on with. -/
def isNamePart (c : Char) : Bool := c.isAlphanum || c == '_'

/-- A letter or underscore, and then letters, digits and underscores. -/
def isFunctionName : List Char → Bool
  | [] => false
  | c :: rest => Column.isStart c && rest.all isNamePart

/-- A letter or underscore, and then word characters, points and colons. -/
def isAlias : List Char → Bool
  | [] => false
  | c :: rest => Column.isStart c && rest.all Column.isPart

/-- Checks the alias of a function. -/
def validateAlias (function : String) : Option String → Except Invalid Unit
  | none => .ok ()
  | some name => if isAlias name.toList then .ok () else .error (.aliasName name function)

mutual

/-- Checks names, aliases and literals at every depth. -/
def validate : Expr → Except Invalid Unit
  | column c => c.validate
  | literal v => v.validate
  | call function initializers parameters label => do
    if isFunctionName function.toList then .ok () else .error (.functionName function)
    validateAlias function label
    Invalid.checkAll Literal.validate (initializers.getD [])
    validateAll parameters

/-- Checks the parameters of a call, in order. -/
def validateAll : List Expr → Except Invalid Unit
  | [] => .ok ()
  | e :: rest => do
    e.validate
    validateAll rest

end

mutual

/-- Equality that is blind to aliases. -/
def same : Expr → Expr → Bool
  | column a, column b => a == b
  | literal a, literal b => a.same b
  | call f is ps _, call g js qs _ => f == g && sameOption Literal.sameItems is js && sameAll ps qs
  | _, _ => false

/-- Equality of parameter lists, one by one. -/
def sameAll : List Expr → List Expr → Bool
  | [], [] => true
  | a :: as, b :: bs => a.same b && sameAll as bs
  | _, _ => false

end

end Expr

/-! ## Conditions -/

/-- A comparison of two expressions; there is no right-hand side with a unary operator. -/
structure Condition where
  lhs : Expr
  op : Comparison
  rhs : Option Expr

namespace Condition

/-- The comparison of a column with a literal. -/
def ofColumn (name : String) (op : Comparison) (value : Literal) : Condition :=
  ⟨.column ⟨name⟩, op, some (.literal value)⟩

/-- Checks that the left-hand side is no literal, that a right-hand side is there exactly if the
operator takes one, and both sides. -/
def validate (c : Condition) : Except Invalid Unit :=
  match c.lhs with
  | .literal _ => .error .literalLhs
  | lhs => do
    lhs.validate
    match c.rhs, c.op.isUnary with
    | some _, true => .error (.extraRhs c.op)
    | none, false => .error (.missingRhs c.op)
    | some rhs, false => rhs.validate
    | none, true => .ok ()

/-- Equality that is blind to aliases. -/
def same (a b : Condition) : Bool :=
  a.lhs.same b.lhs && a.op == b.op && sameOption Expr.same a.rhs b.rhs

end Condition

/-! ## Filters -/

/-- A condition, or a group of filters that are joined by one connective. -/
inductive Filter where
  | condition (condition : Condition)
  | group (op : Connective) (members : List Filter)

namespace Filter

mutual

/-- Checks every condition, and that every group has two members or more. -/
def validate : Filter → Except Invalid Unit
  | condition c => c.validate
  | group _ members => do
    if members.length < 2 then .error .smallGroup else .ok ()
    validateAll members

/-- Checks the members of a group, in order. -/
def validateAll : List Filter → Except Invalid Unit
  | [] => .ok ()
  | f :: rest => do
    f.validate
    validateAll rest

end

mutual

/-- Equality that is blind to aliases. -/
def same : Filter → Filter → Bool
  | condition a, condition b => a.same b
  | group p as, group q bs => p == q && sameAll as bs
  | _, _ => false

/-- Equality of filter lists, one by one. -/
def sameAll : List Filter → List Filter → Bool
  | [], [] => true
  | a :: as, b :: bs => a.same b && sameAll as bs
  | _, _ => false

end

/-- Induction over filters: a group has what its members have. -/
theorem induction {motive : Filter → Prop} (condition : ∀ c, motive (.condition c))
    (group : ∀ op members, (∀ f ∈ members, motive f) → motive (.group op members)) (f : Filter) :
    motive f := by
  match f with
  | .condition c => exact condition c
  | .group op members =>
    refine group op members fun g hg => ?_
    have := List.sizeOf_lt_of_mem hg
    exact induction condition group g
termination_by sizeOf f
decreasing_by
  simp_wf
  omega

end Filter

end MetricQuery
