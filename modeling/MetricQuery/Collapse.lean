import MetricQuery.Query

/-!
# From alternatives to a list of values

`a = x OR a = y` asks for the same rows as `a IN [x, y]`, which is answered faster.  Groups of this
form at the top level of a list of filters are rewritten.

* `Filter.collapse?`    : the condition that a group collapses to, if it does;
* `Filter.collapseAll?` : the list with every such group rewritten, if there is one;
* `Query.collapse`      : the query with the filters at its root rewritten.
-/

set_option autoImplicit false

namespace MetricQuery

/-- The sides of an equality with a literal. -/
def Filter.equality? : Filter → Option (Expr × Literal)
  | .condition ⟨lhs, .eq, some (.literal value)⟩ => some (lhs, value)
  | _ => none

/-- The values that filters compare the given side with, if all of them are equalities of it with
literals. -/
def Filter.valuesOf? (lhs : Expr) : List Filter → Option (List Literal)
  | [] => some []
  | f :: rest => do
    let (side, value) ← f.equality?
    if lhs.same side then
      let values ← valuesOf? lhs rest
      pure (value :: values)
    else none

/-- The condition that a group of alternatives collapses to.  All of its members have to be
equalities of literals with the side that the first of them has. -/
def Filter.collapse? : Filter → Option Filter
  | .group .or (first :: rest) => do
    let (lhs, value) ← first.equality?
    let values ← valuesOf? lhs rest
    pure (.condition ⟨lhs, .isIn, some (.literal (.array (value :: values)))⟩)
  | _ => none

/-- A filter, rewritten if it collapses. -/
def Filter.collapse (f : Filter) : Filter := f.collapse?.getD f

/-- How many filters of a list collapse. -/
def Filter.collapsible (filters : List Filter) : Nat :=
  filters.countP fun f => f.collapse?.isSome

/-- The list with every group that collapses rewritten, if there is one. -/
def Filter.collapseAll? (filters : List Filter) : Option (List Filter) :=
  if collapsible filters = 0 then none else some (filters.map collapse)

/-- The query with the filters at its root rewritten. -/
def Query.collapse (q : Query) : Query :=
  match q.filters.bind Filter.collapseAll? with
  | some filters => q.withFilters (some filters)
  | none => q

end MetricQuery
