import MetricQuery.Proofs.Accepted

/-!
# Reducing loses nothing

What a query holds is what was written: the metrics in their order, and the conditions and the
columns of groupings as often as they were written, though filters and groupings move.

* `Contents`                    : metrics, conditions, columns and variables;
* `Operand.contents`            : what the nodes of an operand hold;
* `Surface.Expression.contents` : what is written in an expression;
* `Contents.Same`               : the same metrics in order, the same conditions and columns in any;
* `Surface.Expression.contents_of_reduce` : an operand holds what its expression says;
* `Surface.Expression.query_keeps` : so does a query, and its expression has no variables.
-/

set_option autoImplicit false

namespace MetricQuery

open Outcome

/-! ## Contents -/

/-- What is written in a query, apart from how it is put together.  A variable is not bound to
anything, and has no place in a query. -/
@[ext] structure Contents where
  metrics : List Metric
  conditions : List Condition
  columns : List Column
  unbound : List String

namespace Contents

/-- Nothing. -/
def empty : Contents := ⟨[], [], [], []⟩

/-- What is written in two places, one after the other. -/
def append (a b : Contents) : Contents :=
  ⟨a.metrics ++ b.metrics, a.conditions ++ b.conditions, a.columns ++ b.columns,
    a.unbound ++ b.unbound⟩

instance : Append Contents := ⟨append⟩

/-- Conditions alone. -/
def ofConditions (conditions : List Condition) : Contents := { empty with conditions }

/-- Columns alone. -/
def ofColumns (columns : List Column) : Contents := { empty with columns }

/-- A metric alone. -/
def ofMetric (metric : Metric) : Contents := { empty with metrics := [metric] }

/-- Variables alone. -/
def ofUnbound (unbound : List String) : Contents := { empty with unbound }

section

variable (a b : Contents)

@[simp] theorem metrics_append : (a ++ b).metrics = a.metrics ++ b.metrics := rfl

@[simp] theorem conditions_append : (a ++ b).conditions = a.conditions ++ b.conditions := rfl

@[simp] theorem columns_append : (a ++ b).columns = a.columns ++ b.columns := rfl

@[simp] theorem unbound_append : (a ++ b).unbound = a.unbound ++ b.unbound := rfl

end

/-- The same metrics and variables in their order, and the same conditions and columns in any. -/
structure Same (a b : Contents) : Prop where
  metrics : a.metrics = b.metrics
  conditions : a.conditions.Perm b.conditions
  columns : a.columns.Perm b.columns
  unbound : a.unbound = b.unbound

variable {a b c d : Contents}

theorem Same.refl (a : Contents) : a.Same a := ⟨rfl, .refl _, .refl _, rfl⟩

theorem Same.symm (h : a.Same b) : b.Same a :=
  ⟨h.metrics.symm, h.conditions.symm, h.columns.symm, h.unbound.symm⟩

theorem Same.trans (h : a.Same b) (h' : b.Same c) : a.Same c :=
  ⟨h.metrics.trans h'.metrics, h.conditions.trans h'.conditions, h.columns.trans h'.columns,
    h.unbound.trans h'.unbound⟩

theorem Same.append (h : a.Same b) (h' : c.Same d) : (a ++ c).Same (b ++ d) where
  metrics := by simp [h.metrics, h'.metrics]
  conditions := h.conditions.append h'.conditions
  columns := h.columns.append h'.columns
  unbound := by simp [h.unbound, h'.unbound]

theorem same_append_empty (a : Contents) : (a ++ empty).Same a :=
  ⟨by simp [empty], by simp [empty], by simp [empty], by simp [empty]⟩

theorem same_empty_append (a : Contents) : (empty ++ a).Same a :=
  ⟨by simp [empty], by simp [empty], by simp [empty], by simp [empty]⟩

end Contents

/-! ## What a query holds -/

mutual

/-- The conditions of a filter, inside every group. -/
def Filter.conditions : Filter → List Condition
  | .condition c => [c]
  | .group _ members => Filter.conditionsAll members

/-- The conditions of filters. -/
def Filter.conditionsAll : List Filter → List Condition
  | [] => []
  | f :: rest => f.conditions ++ Filter.conditionsAll rest

end

theorem Filter.mem_conditionsAll {c : Condition} {fs : List Filter} :
    c ∈ conditionsAll fs ↔ ∃ f ∈ fs, c ∈ f.conditions := by
  induction fs with
  | nil => simp [conditionsAll]
  | cons f fs ih => simp [conditionsAll, ih]

namespace Operand

/-- The filters of a node, whatever is below it. -/
def filters : Operand → List Filter
  | .formula f => f.filters.getD []
  | .timeseries t => t.filters.getD []
  | _ => []

/-- The grouping of a node, whatever is below it. -/
def grouping : Operand → List Column
  | .formula f => f.groupby.getD []
  | .timeseries t => t.groupby.getD []
  | _ => []

/-- The conditions in the filters of nodes. -/
def conditionsOf (nodes : List Operand) : List Condition :=
  nodes.flatMap fun n => Filter.conditionsAll n.filters

/-- The columns in the groupings of nodes. -/
def columnsOf (nodes : List Operand) : List Column := nodes.flatMap grouping

/-- The metrics of the series that an operand reads, and what the filters and the groupings of all
its nodes hold. -/
def contents (o : Operand) : Contents where
  metrics := o.series.map Timeseries.metric
  conditions := conditionsOf o.nodes
  columns := columnsOf o.nodes
  unbound := []

/-- What operands hold, in order. -/
def contentsAll (os : List Operand) : Contents where
  metrics := (seriesAll os).map Timeseries.metric
  conditions := conditionsOf (nodesAll os)
  columns := columnsOf (nodesAll os)
  unbound := []

theorem contentsAll_nil : contentsAll [] = .empty := rfl

theorem contentsAll_cons (o : Operand) (os : List Operand) :
    contentsAll (o :: os) = o.contents ++ contentsAll os := by
  ext1 <;> simp [contentsAll, contents, seriesAll, nodesAll, conditionsOf, columnsOf]

theorem contentsAll_singleton (o : Operand) : (contentsAll [o]).Same o.contents := by
  rw [contentsAll_cons, contentsAll_nil]
  exact Contents.same_append_empty o.contents

theorem contents_formula (f : Formula) :
    (Operand.formula f).contents =
      .ofConditions (Filter.conditionsAll (f.filters.getD [])) ++ .ofColumns (f.groupby.getD []) ++
        contentsAll f.operands := by
  obtain ⟨function, parameters, operands, filters, groupby⟩ := f
  ext1 <;> simp [contentsAll, contents, series, Formula.series, nodes, Formula.nodes, conditionsOf,
    columnsOf, Operand.filters, grouping, Contents.ofConditions, Contents.ofColumns, Contents.empty]

theorem contents_timeseries (t : Timeseries) :
    (Operand.timeseries t).contents =
      .ofConditions (Filter.conditionsAll (t.filters.getD [])) ++ .ofColumns (t.groupby.getD []) ++
        .ofMetric t.metric := by
  ext1 <;> simp [contents, series, nodes, conditionsOf, columnsOf, Operand.filters, grouping,
    Contents.ofConditions, Contents.ofColumns, Contents.ofMetric, Contents.empty]

theorem contents_new (function : String) (operands : List Operand) :
    (Operand.formula (.new function operands)).contents = contentsAll operands := by
  rw [contents_formula]
  ext1 <;> simp [Formula.new, Filter.conditionsAll, Contents.ofConditions, Contents.ofColumns,
    Contents.empty]

end Operand

namespace Query

/-- The conditions in all filters of a query: at every node and inside every group. -/
def conditions (q : Query) : List Condition := Operand.conditionsOf q.toOperand.nodes

/-- The columns in all groupings of a query, at every node. -/
def columns (q : Query) : List Column := Operand.columnsOf q.toOperand.nodes

/-- What a query holds apart from its own filters and grouping. -/
def inner : Query → Contents
  | timeseries t => .ofMetric t.metric
  | formula f => Operand.contentsAll f.operands

@[simp] theorem inner_withFilters (filters : Option (List Filter)) (q : Query) :
    (q.withFilters filters).inner = q.inner := by
  cases q <;> rfl

@[simp] theorem inner_withGroupby (groupby : Option (List Column)) (q : Query) :
    (q.withGroupby groupby).inner = q.inner := by
  cases q <;> rfl

theorem contents_toOperand (q : Query) :
    q.toOperand.contents =
      .ofConditions (Filter.conditionsAll (q.filters.getD [])) ++ .ofColumns (q.groupby.getD []) ++
        q.inner := by
  cases q with
  | timeseries t => exact Operand.contents_timeseries t
  | formula f => exact Operand.contents_formula f

/-- Filters in front of those of a query come in addition. -/
theorem contents_prependFilter (f : Filter) (q : Query) :
    (Surface.prependFilter f q).toOperand.contents.Same
      (q.toOperand.contents ++ .ofConditions f.conditions) := by
  rw [contents_toOperand, contents_toOperand, Surface.prependFilter, filters_withFilters,
    groupby_withFilters, inner_withFilters, Option.getD_some, Filter.conditionsAll]
  refine ⟨by simp [Contents.ofConditions, Contents.empty], ?_,
    by simp [Contents.ofConditions, Contents.empty],
    by simp [Contents.ofConditions, Contents.empty]⟩
  simp only [Contents.conditions_append, Contents.ofConditions, Contents.ofColumns, Contents.empty,
    List.append_nil, List.append_assoc]
  exact List.perm_append_comm.trans (by simp)

/-- Columns in front of those that a query is grouped by come in addition. -/
theorem contents_prependGroupby (cs : List Column) (q : Query) :
    (Surface.prependGroupby cs q).toOperand.contents.Same
      (q.toOperand.contents ++ .ofColumns cs) := by
  rw [contents_toOperand, contents_toOperand, Surface.prependGroupby, filters_withGroupby,
    groupby_withGroupby, inner_withGroupby, Option.getD_some]
  refine ⟨by simp [Contents.ofColumns, Contents.empty],
    by simp [Contents.ofColumns, Contents.empty], ?_,
    by simp [Contents.ofColumns, Contents.empty]⟩
  simp only [Contents.columns_append, Contents.ofConditions, Contents.ofColumns, Contents.empty,
    List.nil_append, List.append_assoc]
  exact List.perm_append_comm.trans (by simp)

end Query

namespace Surface

/-! ## What is written -/

/-- A condition as it is written, or the variables that stand in it. -/
def conditionContents (negated : Bool) : TagKey → TagValue → Contents
  | .name k, .string s => .ofConditions [.ofColumn k (if negated then .neq else .eq) (.string s)]
  | .name k, .list items =>
    .ofConditions [.ofColumn k (if negated then .notIn else .isIn) (.ofStrings items)]
  | .name k, .wildcard p =>
    .ofConditions [.ofColumn k (if negated then .notLike else .like) (.string p)]
  | .name _, .variable v => .ofUnbound [v]
  | .variable v, .variable w => .ofUnbound [v, w]
  | .variable v, _ => .ofUnbound [v]

mutual

/-- What is written in a factor. -/
def TagFactor.contents : TagFactor → Contents
  | .condition negated key value => conditionContents negated key value
  | .nested terms => termsContents terms

/-- What is written in factors. -/
def factorsContents : List TagFactor → Contents
  | [] => .empty
  | factor :: rest => factor.contents ++ factorsContents rest

/-- What is written in terms. -/
def termsContents : List (List TagFactor) → Contents
  | [] => .empty
  | term :: rest => factorsContents term ++ termsContents rest

end

/-- What is written between braces, if they are there. -/
def filterContents : Option TagFilter → Contents
  | none => .empty
  | some terms => termsContents terms

/-- What is written in a grouping, if it is there. -/
def groupByContents : Option (List String) → Contents
  | none => .empty
  | some names => .ofColumns (names.map fun name => ⟨name⟩)

/-- What is written in a selection. -/
def Selection.contents (s : Selection) : Contents :=
  .ofMetric s.metric.toMetric ++ filterContents s.filters ++ groupByContents s.groupBy

mutual

/-- What is written in an expression. -/
def Expression.contents : Expression → Contents
  | .term t => t.contents
  | .binary lhs _ rhs => lhs.contents ++ rhs.contents

/-- What is written in a term. -/
def Term.contents : Term → Contents
  | .unary u => u.contents
  | .binary lhs _ rhs => lhs.contents ++ rhs.contents

/-- What is written in a signed coefficient. -/
def Unary.contents : Unary → Contents
  | .mk _ coefficient => coefficient.contents

/-- What is written in a coefficient. -/
def Coefficient.contents : Coefficient → Contents
  | .filtered target filters groupBy =>
    target.contents ++ filterContents filters ++ groupByContents groupBy
  | _ => .empty

/-- What is written in a target. -/
def Target.contents : Target → Contents
  | .variable v => .ofUnbound [v]
  | .nested e => e.contents
  | .call c groupBy => c.contents ++ groupByContents groupBy
  | .metric m => .ofMetric m.toMetric

/-- What is written in a call. -/
def Call.contents : Call → Contents
  | .aggregate _ _ inner => inner.contents
  | .function _ _ args => argumentsContents args

/-- What is written in arguments. -/
def argumentsContents : List Expression → Contents
  | [] => .empty
  | arg :: rest => arg.contents ++ argumentsContents rest

end

/-! ## Filters and groupings -/

theorem column_eq_ok {name : String} {c : Column} (h : column name = .ok c) : c = ⟨name⟩ := by
  obtain ⟨_, -, h⟩ := bind_eq_ok.1 h
  exact (pure_eq_ok.1 h).symm

theorem columns_eq_ok {names : List String} {cs : List Column} (h : columns names = .ok cs) :
    cs = names.map fun name => ⟨name⟩ := by
  induction names generalizing cs with
  | nil =>
    rw [columns] at h
    exact (pure_eq_ok.1 h).symm
  | cons name rest ih =>
    rw [columns] at h
    obtain ⟨first, hfirst, h⟩ := bind_eq_ok.1 h
    obtain ⟨others, hothers, h⟩ := bind_eq_ok.1 h
    cases pure_eq_ok.1 h
    rw [column_eq_ok hfirst, ih hothers, List.map_cons]

/-- A condition that is read is the one that is written, and there is no variable in it. -/
theorem contents_of_tagCondition {negated : Bool} {key : TagKey} {value : TagValue}
    {c : Condition} (h : tagCondition negated key value = .ok c) :
    conditionContents negated key value = .ofConditions [c] := by
  cases key with
  | «variable» v => cases h
  | name k =>
    obtain ⟨lhs, hlhs, h⟩ := bind_eq_ok.1 h
    obtain ⟨⟨op, rhs⟩, hrhs, h⟩ := bind_eq_ok.1 h
    cases pure_eq_ok.1 h
    rw [column_eq_ok hlhs]
    cases value <;> cases hrhs <;> rfl

theorem conditions_joined (op : Connective) (members : List Filter) :
    (joined op members).conditions = Filter.conditionsAll members := by
  match members with
  | [] => rw [joined, Filter.conditions]; simp
  | [f] => simp [joined, Filter.conditionsAll]
  | f :: g :: rest => rw [joined, Filter.conditions]; simp

mutual

/-- A filter holds what its factor says. -/
theorem TagFactor.contents_of_reduce : ∀ (factor : TagFactor) (f : Filter),
    factor.reduce = .ok f → factor.contents = .ofConditions f.conditions
  | .condition negated key value, f, h => by
    rw [TagFactor.reduce] at h
    obtain ⟨c, hc, h⟩ := bind_eq_ok.1 h
    cases pure_eq_ok.1 h
    rw [TagFactor.contents, contents_of_tagCondition hc, Filter.conditions]
  | .nested terms, f, h => by
    rw [TagFactor.reduce] at h
    obtain ⟨members, hmembers, h⟩ := bind_eq_ok.1 h
    cases pure_eq_ok.1 h
    rw [TagFactor.contents, conditions_joined]
    exact contents_of_reduceTerms terms members hmembers

/-- Filters hold what their factors say. -/
theorem contents_of_reduceFactors : ∀ (factors : List TagFactor) (fs : List Filter),
    reduceFactors factors = .ok fs →
      factorsContents factors = .ofConditions (Filter.conditionsAll fs)
  | [], fs, h => by
    rw [reduceFactors] at h
    cases pure_eq_ok.1 h
    rfl
  | factor :: rest, fs, h => by
    rw [reduceFactors] at h
    obtain ⟨first, hfirst, h⟩ := bind_eq_ok.1 h
    obtain ⟨others, hothers, h⟩ := bind_eq_ok.1 h
    cases pure_eq_ok.1 h
    rw [factorsContents, TagFactor.contents_of_reduce factor first hfirst,
      contents_of_reduceFactors rest others hothers, Filter.conditionsAll]
    rfl

/-- Filters hold what their terms say. -/
theorem contents_of_reduceTerms : ∀ (terms : List (List TagFactor)) (fs : List Filter),
    reduceTerms terms = .ok fs → termsContents terms = .ofConditions (Filter.conditionsAll fs)
  | [], fs, h => by
    rw [reduceTerms] at h
    cases pure_eq_ok.1 h
    rfl
  | term :: rest, fs, h => by
    rw [reduceTerms] at h
    obtain ⟨factors, hfactors, h⟩ := bind_eq_ok.1 h
    obtain ⟨others, hothers, h⟩ := bind_eq_ok.1 h
    cases pure_eq_ok.1 h
    rw [termsContents, contents_of_reduceFactors term factors hfactors,
      contents_of_reduceTerms rest others hothers, Filter.conditionsAll, conditions_joined]
    rfl

end

theorem contents_of_tagFilter {terms : TagFilter} {f : Filter}
    (h : TagFilter.reduce terms = .ok f) : termsContents terms = .ofConditions f.conditions := by
  obtain ⟨members, hmembers, h⟩ := bind_eq_ok.1 h
  cases pure_eq_ok.1 h
  rw [contents_of_reduceTerms terms members hmembers, conditions_joined]

section

variable {q q' : Query} {c : Contents}

/-- A filter that is put on a query comes in addition to what the query holds. -/
theorem same_of_addFilter {filters : Option TagFilter} (h : addFilter filters q = .ok q')
    (hq : q.toOperand.contents.Same c) :
    q'.toOperand.contents.Same (c ++ filterContents filters) := by
  cases filters with
  | none =>
    cases h
    exact hq.trans (Contents.same_append_empty c).symm
  | some terms =>
    obtain ⟨f, hf, h⟩ := bind_eq_ok.1 h
    cases pure_eq_ok.1 h
    rw [filterContents, contents_of_tagFilter hf]
    exact (q.contents_prependFilter f).trans (hq.append (.refl _))

/-- A grouping that is put on a query comes in addition to what the query holds. -/
theorem same_of_addGroupBy {groupBy : Option (List String)} (h : addGroupBy groupBy q = .ok q')
    (hq : q.toOperand.contents.Same c) :
    q'.toOperand.contents.Same (c ++ groupByContents groupBy) := by
  cases groupBy with
  | none =>
    cases h
    exact hq.trans (Contents.same_append_empty c).symm
  | some names =>
    obtain ⟨cs, hcs, h⟩ := bind_eq_ok.1 h
    cases pure_eq_ok.1 h
    rw [groupByContents, ← columns_eq_ok hcs]
    exact (q.contents_prependGroupby cs).trans (hq.append (.refl _))

end

theorem metric_eq_ok {m : MetricRef} {metric : Metric} (h : m.reduce = .ok metric) :
    metric = m.toMetric := by
  obtain ⟨_, -, h⟩ := bind_eq_ok.1 h
  exact (pure_eq_ok.1 h).symm

/-- A series without an aggregate holds what its selection says. -/
theorem same_of_selection {s : Selection} {t : Timeseries} (h : s.reduce = .ok t) :
    (Operand.timeseries t).contents.Same s.contents := by
  rw [Selection.reduce_eq] at h
  obtain ⟨fs, hfs, h⟩ := bind_eq_ok.1 h
  obtain ⟨cs, hcs, h⟩ := bind_eq_ok.1 h
  obtain ⟨metric, hmetric, h⟩ := bind_eq_ok.1 h
  cases pure_eq_ok.1 h
  have hfilters : filterContents s.filters = .ofConditions (Filter.conditionsAll (fs.getD [])) := by
    rcases optionally_eq_ok.1 hfs with ⟨hnone, rfl⟩ | ⟨terms, fs, hterms, rfl, hread⟩
    · rw [hnone]; rfl
    · obtain ⟨f, hf, hread⟩ := bind_eq_ok.1 hread
      cases pure_eq_ok.1 hread
      rw [hterms, filterContents, contents_of_tagFilter hf]
      simp [Filter.conditionsAll]
  have hgrouping : groupByContents s.groupBy = .ofColumns (cs.getD []) := by
    rcases optionally_eq_ok.1 hcs with ⟨hnone, rfl⟩ | ⟨names, cs, hnames, rfl, hread⟩
    · rw [hnone]; rfl
    · rw [hnames, groupByContents, columns_eq_ok hread]; rfl
  rw [Operand.contents_timeseries, Selection.contents, hfilters, hgrouping, metric_eq_ok hmetric]
  refine ⟨?_, ?_, ?_, ?_⟩ <;>
    simp [Timeseries.unaggregated, Timeseries.new, Contents.ofMetric, Contents.ofConditions,
      Contents.ofColumns, Contents.empty]

/-! ## Calls and signs -/

@[simp] theorem contents_withAggregate (t : Timeseries) (name : String)
    (parameters : Option (List Literal)) :
    (Operand.timeseries (t.withAggregate name parameters)).contents =
      (Operand.timeseries t).contents := by
  rw [Operand.contents_timeseries, Operand.contents_timeseries]
  rfl

/-- A call holds what its operands hold, whether it becomes a formula or the aggregate of its
only operand. -/
theorem same_of_apply {name : String} {params : Option (List Param)} {operands : List Operand}
    {q : Query} (h : apply name params operands = .ok q) :
    q.toOperand.contents.Same (Operand.contentsAll operands) := by
  cases params with
  | none =>
    unfold apply applyFunction at h
    dsimp only at h
    split at h
    · cases h
    · cases h
      rw [Query.toOperand, Operand.contents_new]
      exact .refl _
  | some ps =>
    unfold apply applyCurried at h
    dsimp only at h
    split at h
    · rename_i t ht
      obtain ⟨rest, rfl⟩ := bareMetric?_eq_some ht
      split at h
      · rename_i hone
        have hrest : rest = [] := List.length_eq_zero_iff.1 (by simpa using hone)
        cases h
        rw [hrest, Query.toOperand, contents_withAggregate]
        exact (Operand.contentsAll_singleton _).symm
      · cases h
    · cases h
      rw [Query.toOperand, Operand.contents_formula]
      exact Contents.same_empty_append (Operand.contentsAll operands)

theorem same_of_formula_new {name : String} {operands : List Operand} {c : Contents}
    (h : (Operand.contentsAll operands).Same c) :
    (Operand.formula (.new name operands)).contents.Same c := by
  rw [Operand.contents_new]
  exact h

/-- A number, or a query with the other sign, holds what it held. -/
theorem same_of_negated {o o' : Operand} (h : negated o = .ok o') :
    o'.contents.Same o.contents := by
  cases o with
  | int n => cases h; exact .refl _
  | float x => cases h; exact .refl _
  | string s => cases h
  | timeseries t =>
    cases h
    exact same_of_formula_new (Operand.contentsAll_singleton _)
  | formula f =>
    cases h
    exact same_of_formula_new (Operand.contentsAll_singleton _)

theorem parenthesized_eq_ok {o : Operand} {q : Query} (h : parenthesized o = .ok q) :
    o = q.toOperand := by
  cases o <;> cases h <;> rfl

theorem same_of_arithmetic {op : ArithmeticOp} {a b : Operand} {c d : Contents}
    (ha : a.contents.Same c) (hb : b.contents.Same d) :
    (Operand.formula (.arithmetic op a b)).contents.Same (c ++ d) := by
  refine same_of_formula_new ?_
  rw [Operand.contentsAll_cons]
  exact ha.append ((Operand.contentsAll_singleton b).trans hb)

/-! ## Expressions -/

mutual

/-- **An operand holds what its expression says.** -/
theorem Expression.contents_of_reduce : ∀ (e : Expression) (o : Operand),
    e.reduce = .ok o → o.contents.Same e.contents
  | .term t, o, h => by
    rw [Expression.reduce] at h
    rw [Expression.contents]
    exact Term.contents_of_reduce t o h
  | .binary lhs op rhs, o, h => by
    rw [Expression.reduce] at h
    obtain ⟨a, ha, h⟩ := bind_eq_ok.1 h
    obtain ⟨b, hb, h⟩ := bind_eq_ok.1 h
    cases pure_eq_ok.1 h
    rw [Expression.contents]
    exact same_of_arithmetic (Expression.contents_of_reduce lhs a ha)
      (Term.contents_of_reduce rhs b hb)

/-- An operand holds what its term says. -/
theorem Term.contents_of_reduce : ∀ (t : Term) (o : Operand),
    t.reduce = .ok o → o.contents.Same t.contents
  | .unary u, o, h => by
    rw [Term.reduce] at h
    rw [Term.contents]
    exact Unary.contents_of_reduce u o h
  | .binary lhs op rhs, o, h => by
    rw [Term.reduce] at h
    obtain ⟨a, ha, h⟩ := bind_eq_ok.1 h
    obtain ⟨b, hb, h⟩ := bind_eq_ok.1 h
    cases pure_eq_ok.1 h
    rw [Term.contents]
    exact same_of_arithmetic (Term.contents_of_reduce lhs a ha)
      (Unary.contents_of_reduce rhs b hb)

/-- An operand holds what its signed coefficient says. -/
theorem Unary.contents_of_reduce : ∀ (u : Unary) (o : Operand),
    u.reduce = .ok o → o.contents.Same u.contents
  | .mk isNegated coefficient, o, h => by
    rw [Unary.reduce] at h
    obtain ⟨value, hvalue, h⟩ := bind_eq_ok.1 h
    have ih := Coefficient.contents_of_reduce coefficient value hvalue
    rw [Unary.contents]
    cases isNegated with
    | false =>
      cases pure_eq_ok.1 h
      exact ih
    | true => exact (same_of_negated h).trans ih

/-- An operand holds what its coefficient says. -/
theorem Coefficient.contents_of_reduce : ∀ (c : Coefficient) (o : Operand),
    c.reduce = .ok o → o.contents.Same c.contents
  | .int n, o, h => by
    rw [Coefficient.reduce] at h
    cases pure_eq_ok.1 h
    exact .refl _
  | .float x, o, h => by
    rw [Coefficient.reduce] at h
    cases pure_eq_ok.1 h
    exact .refl _
  | .string s, o, h => by
    rw [Coefficient.reduce] at h
    cases pure_eq_ok.1 h
    exact .refl _
  | .filtered target filters groupBy, o, h => by
    rw [Coefficient.reduce] at h
    obtain ⟨q, hq, h⟩ := bind_eq_ok.1 h
    obtain ⟨filtered, hfiltered, h⟩ := bind_eq_ok.1 h
    obtain ⟨grouped, hgrouped, h⟩ := bind_eq_ok.1 h
    cases pure_eq_ok.1 h
    have ih := Target.contents_of_reduce target q hq
    rw [Coefficient.contents]
    exact same_of_addGroupBy hgrouped (same_of_addFilter hfiltered ih)

/-- A query holds what its target says. -/
theorem Target.contents_of_reduce : ∀ (t : Target) (q : Query),
    t.reduce = .ok q → q.toOperand.contents.Same t.contents
  | .variable v, q, h => by
    rw [Target.reduce] at h
    cases h
  | .nested e, q, h => by
    rw [Target.reduce] at h
    obtain ⟨o, ho, h⟩ := bind_eq_ok.1 h
    rw [Target.contents, ← parenthesized_eq_ok h]
    exact Expression.contents_of_reduce e o ho
  | .call c groupBy, q, h => by
    rw [Target.reduce] at h
    obtain ⟨called, hcalled, h⟩ := bind_eq_ok.1 h
    have ih := Call.contents_of_reduce c called hcalled
    rw [Target.contents]
    exact same_of_addGroupBy h ih
  | .metric m, q, h => by
    rw [Target.reduce] at h
    obtain ⟨metric, hmetric, h⟩ := bind_eq_ok.1 h
    cases pure_eq_ok.1 h
    rw [Target.contents, ← metric_eq_ok hmetric]
    exact .refl _

/-- A query holds what its call says. -/
theorem Call.contents_of_reduce : ∀ (c : Call) (q : Query),
    c.reduce = .ok q → q.toOperand.contents.Same c.contents
  | .aggregate name params inner, q, h => by
    rw [Call.reduce] at h
    obtain ⟨t, ht, h⟩ := bind_eq_ok.1 h
    cases pure_eq_ok.1 h
    rw [Call.contents, Query.toOperand, contents_withAggregate]
    exact same_of_selection ht
  | .function name params args, q, h => by
    rw [Call.reduce] at h
    obtain ⟨operands, hoperands, h⟩ := bind_eq_ok.1 h
    have ih := contents_of_reduceArguments args operands hoperands
    rw [Call.contents]
    exact (same_of_apply h).trans ih

/-- Operands hold what their arguments say. -/
theorem contents_of_reduceArguments : ∀ (args : List Expression) (os : List Operand),
    reduceArguments args = .ok os → (Operand.contentsAll os).Same (argumentsContents args)
  | [], os, h => by
    rw [reduceArguments] at h
    cases pure_eq_ok.1 h
    exact .refl _
  | arg :: rest, os, h => by
    rw [reduceArguments] at h
    obtain ⟨first, hfirst, h⟩ := bind_eq_ok.1 h
    obtain ⟨others, hothers, h⟩ := bind_eq_ok.1 h
    cases pure_eq_ok.1 h
    rw [argumentsContents, Operand.contentsAll_cons]
    exact (Expression.contents_of_reduce arg first hfirst).append
      (contents_of_reduceArguments rest others hothers)

end

/-- **Reducing neither loses nor repeats anything.**  An expression that gives a query has no
variable, and the query has the metrics of the expression in their order, and its conditions and
columns, each as often as it is written. -/
theorem Expression.query_keeps {e : Expression} {q : Query} (h : e.query = .ok q) :
    e.contents.unbound = [] ∧ q.series.map Timeseries.metric = e.contents.metrics ∧
      q.conditions.Perm e.contents.conditions ∧ q.columns.Perm e.contents.columns := by
  have hsame := Expression.contents_of_reduce e q.toOperand (Query.query_eq_ok.1 h)
  have hunbound : q.toOperand.contents.unbound = [] := rfl
  exact ⟨hsame.unbound.symm.trans hunbound, hsame.metrics, hsame.conditions, hsame.columns⟩

/-- Filters at three levels of `-(sum(foo{k:"v"} by h)){!k:"w*" and ()} by g`, with an empty group
that no text can give. -/
theorem Expression.query_keeps_nested :
    let foo : Selection := ⟨.publicName "foo", some [[.condition false (.name "k") (.string "v")]],
      some ["h"]⟩
    let sum : Expression := .term (.unary (.mk false
      (.filtered (.call (.aggregate "sum" none foo) none) none none)))
    let e : Expression := .term (.unary (.mk true (.filtered (.nested sum)
      (some [[.condition true (.name "k") (.wildcard "w*"), .nested []]]) (some ["g"]))))
    ∃ q, e.query = .ok q ∧ e.contents.unbound = [] ∧
      q.series.map Timeseries.metric = e.contents.metrics ∧
      q.conditions.Perm e.contents.conditions ∧ q.columns.Perm e.contents.columns := by
  intro foo sum e
  obtain ⟨q, hq⟩ := exists_of_isSome (x := e.query) (by decide +kernel)
  exact ⟨q, hq, Expression.query_keeps hq⟩

end Surface

end MetricQuery
