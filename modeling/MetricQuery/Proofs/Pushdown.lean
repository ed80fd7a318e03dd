import MetricQuery.Proofs.Outcome

/-!
# Where outer filters and groupings go

A target in parentheses may have a filter and a grouping behind it, and that may be put into
parentheses again.  Each level adds its own in front of what the levels inside of it have left.

* `joinPresent`                     : lists that may be absent, one after the other;
* `Surface.Layer`, `Target.within`  : one level of parentheses, and a target inside of it;
* `Surface.Target.reduce_within`    : what one level does, whether it succeeds or not;
* `Surface.Target.reduce_withinAll` : what all levels do, by induction over them;
* `Surface.Coefficient.reduce_aggregate` : the three places around an aggregate;
* `Surface.Target.outer_in_front`   : the outcome for any depth and for any aggregate.
-/

set_option autoImplicit false

namespace MetricQuery

/-! ## Lists that may be absent -/

section

variable {α : Type}

/-- Lists that may be absent, one after the other.  The whole is absent if each of them is. -/
def joinPresent : List (Option (List α)) → Option (List α)
  | [] => none
  | none :: rest => joinPresent rest
  | some xs :: rest => some (xs ++ (joinPresent rest).getD [])

@[simp] theorem joinPresent_nil : joinPresent ([] : List (Option (List α))) = none := rfl

@[simp] theorem joinPresent_none (rest : List (Option (List α))) :
    joinPresent (none :: rest) = joinPresent rest := rfl

@[simp] theorem joinPresent_some (xs : List α) (rest : List (Option (List α))) :
    joinPresent (some xs :: rest) = some (xs ++ (joinPresent rest).getD []) := rfl

@[simp] theorem joinPresent_singleton (part : Option (List α)) : joinPresent [part] = part := by
  cases part <;> simp

/-- The last parts may be joined first. -/
theorem joinPresent_append (front back : List (Option (List α))) :
    joinPresent (front ++ [joinPresent back]) = joinPresent (front ++ back) := by
  induction front with
  | nil => simp
  | cons part front ih => cases part <;> simp [ih]

example : joinPresent [some ["outer"], none, some ["inner"]] = some ["outer", "inner"] := rfl

end

namespace Surface

open Outcome

/-! ## One level -/

/-- What stands behind a target in parentheses. -/
structure Layer where
  filters : Option TagFilter
  groupBy : Option (List String)

/-- What a level adds to a query. -/
structure Added where
  filter : Option Filter
  groupby : Option (List Column)

/-- The filter as the only one of a list. -/
def Added.filters (a : Added) : Option (List Filter) := a.filter.map fun f => [f]

/-- What the level adds, if its filter and its grouping have a meaning. -/
def Layer.reduce (l : Layer) : Except QueryError Added := do
  let filter ← optionally TagFilter.reduce l.filters
  let groupby ← optionally columns l.groupBy
  pure ⟨filter, groupby⟩

/-- The target with a filter and a grouping behind it, in parentheses. -/
def Target.within (t : Target) (l : Layer) : Target :=
  .nested (.term (.unary (.mk false (.filtered t l.filters l.groupBy))))

/-- The target inside of all levels, the innermost first. -/
def Target.withinAll (t : Target) (layers : List Layer) : Target := layers.foldl Target.within t

/-- The query with what levels add, the outermost first, in front of its own. -/
def under (added : List Added) (q : Query) : Query :=
  (q.withFilters (joinPresent (added.map Added.filters ++ [q.filters]))).withGroupby
    (joinPresent (added.map Added.groupby ++ [q.groupby]))

@[simp] theorem filters_under (added : List Added) (q : Query) :
    (under added q).filters = joinPresent (added.map Added.filters ++ [q.filters]) := by
  simp [under]

@[simp] theorem groupby_under (added : List Added) (q : Query) :
    (under added q).groupby = joinPresent (added.map Added.groupby ++ [q.groupby]) := by
  simp [under]

@[simp] theorem under_nil (q : Query) : under [] q = q := by
  simp [under]

/-- What outer levels add goes in front of what inner levels have added. -/
theorem under_append (outer inner : List Added) (q : Query) :
    under outer (under inner q) = under (outer ++ inner) q := by
  rw [under, filters_under, groupby_under, joinPresent_append, joinPresent_append, under, under,
    Query.withFilters_withGroupby, Query.withFilters_withFilters, Query.withGroupby_withGroupby]
  simp

/-- A level adds its filter first and its grouping then. -/
theorem under_pair (filter : Option Filter) (groupby : Option (List Column)) (q : Query) :
    under [⟨none, groupby⟩, ⟨filter, none⟩] q = under [⟨filter, groupby⟩] q := by
  cases groupby <;> simp [under, Added.filters]

theorem addFilter_eq (filters : Option TagFilter) (q : Query) :
    addFilter filters q = (do
      let filter ← optionally TagFilter.reduce filters
      pure (under [⟨filter, none⟩] q)) := by
  cases filters with
  | none =>
    rw [optionally, pure_bind]
    simp [addFilter, under, Added.filters, pure, Except.pure]
  | some terms =>
    simp [addFilter, optionally, under, Added.filters, prependFilter]

theorem addGroupBy_eq (names : Option (List String)) (q : Query) :
    addGroupBy names q = (do
      let groupby ← optionally columns names
      pure (under [⟨none, groupby⟩] q)) := by
  cases names with
  | none =>
    rw [optionally, pure_bind]
    simp [addGroupBy, under, Added.filters, pure, Except.pure]
  | some names =>
    simp [addGroupBy, optionally, under, Added.filters, prependGroupby]

theorem parenthesized_toOperand (q : Query) : parenthesized q.toOperand = .ok q := by
  simp [parenthesized]

/-- The filter is read before the grouping, and both go in front of what the target has. -/
theorem Coefficient.reduce_filtered (t : Target) (l : Layer) :
    (Coefficient.filtered t l.filters l.groupBy).reduce = (do
      let q ← t.reduce
      let a ← l.reduce
      pure (under [a] q).toOperand) := by
  rw [Coefficient.reduce]
  simp only [addFilter_eq, addGroupBy_eq, Layer.reduce, bind_assoc, pure_bind, under_append,
    List.singleton_append, under_pair]

/-- **One level adds what stands behind its target, in front of what the target has.** -/
theorem Target.reduce_within (t : Target) (l : Layer) :
    (t.within l).reduce = (do
      let q ← t.reduce
      let a ← l.reduce
      pure (under [a] q)) := by
  rw [Target.within, Target.reduce, Expression.reduce, Term.reduce, Unary.reduce,
    Coefficient.reduce_filtered]
  simp only [bind_assoc, pure_bind, Bool.false_eq_true, if_false, parenthesized_toOperand]
  rfl

/-! ## All levels -/

/-- **Every level adds its own in front of what the levels inside of it have left.** -/
theorem Target.reduce_withinAll (t : Target) (layers : List Layer) :
    (t.withinAll layers).reduce = (do
      let q ← t.reduce
      let added ← layers.mapM Layer.reduce
      pure (under added.reverse q)) := by
  induction layers generalizing t with
  | nil => simp [Target.withinAll]
  | cons l layers ih =>
    rw [Target.withinAll, List.foldl_cons, ← Target.withinAll, ih, Target.reduce_within]
    simp only [bind_assoc, pure_bind, List.mapM_cons, under_append, List.reverse_cons]

/-- A pair of parentheses alone adds nothing. -/
theorem Target.reduce_within_bare (t : Target) : (t.within ⟨none, none⟩).reduce = t.reduce := by
  rw [Target.reduce_within]
  have hadd : Layer.reduce ⟨none, none⟩ = pure ⟨none, none⟩ := rfl
  simp [hadd, under, Added.filters]

/-! ## Aggregates -/

theorem onlyFilter_optionally (filters : Option TagFilter) :
    optionally onlyFilter filters = (do
      let filter ← optionally TagFilter.reduce filters
      pure (filter.map fun f => [f])) := by
  cases filters <;> simp [optionally, onlyFilter]

/-- A metric under an aggregate, neither filtered nor grouped. -/
def aggregated (metric : Metric) (name : String) (params : Option (List Param)) : Query :=
  .timeseries ((Timeseries.unaggregated metric).withAggregate name
    (params.map (·.map Param.toLiteral)))

theorem under_aggregated (added : List Added) (metric : Metric) (name : String)
    (params : Option (List Param)) :
    under added (aggregated metric name params) =
      .timeseries ⟨metric, name, params.map (·.map Param.toLiteral),
        joinPresent (added.map Added.filters), joinPresent (added.map Added.groupby)⟩ := by
  have hfilters : (aggregated metric name params).filters = joinPresent [] := rfl
  have hgroupby : (aggregated metric name params).groupby = joinPresent [] := rfl
  rw [under, hfilters, hgroupby, joinPresent_append, joinPresent_append, List.append_nil,
    List.append_nil]
  rfl

/-- The filter and the grouping of its metric are those of an aggregate. -/
theorem Call.reduce_aggregate (name : String) (params : Option (List Param)) (s : Selection) :
    (Call.aggregate name params s).reduce = (do
      let inner ← Layer.reduce ⟨s.filters, s.groupBy⟩
      let metric ← s.metric.reduce
      pure (under [inner] (aggregated metric name params))) := by
  rw [Call.reduce, Selection.reduce_eq, onlyFilter_optionally]
  simp only [Layer.reduce, bind_assoc, pure_bind]
  simp only [under_aggregated, List.map_cons, List.map_nil, joinPresent_singleton]
  rfl

/-- A call has a grouping of its own between those inside and outside of it. -/
theorem Target.reduce_call (c : Call) (groupBy : Option (List String)) :
    (Target.call c groupBy).reduce = (do
      let q ← c.reduce
      let own ← Layer.reduce ⟨none, groupBy⟩
      pure (under [own] q)) := by
  rw [Target.reduce]
  simp [addGroupBy_eq, Layer.reduce, optionally]

/-- **Around an aggregate there are three places, and the outer go in front of the inner.** -/
theorem Coefficient.reduce_aggregate (name : String) (params : Option (List Param))
    (s : Selection) (own : Option (List String)) (outer : Layer) :
    (Coefficient.filtered (.call (.aggregate name params s) own) outer.filters
        outer.groupBy).reduce = (do
      let a₀ ← Layer.reduce ⟨s.filters, s.groupBy⟩
      let metric ← s.metric.reduce
      let a₁ ← Layer.reduce ⟨none, own⟩
      let a₂ ← outer.reduce
      pure (under [a₂, a₁, a₀] (aggregated metric name params)).toOperand) := by
  rw [Coefficient.reduce_filtered, Target.reduce_call, Call.reduce_aggregate]
  simp only [bind_assoc, pure_bind, under_append, List.singleton_append]

/-! ## The outcome -/

/-- **What is written outside goes in front, at any depth.**  Levels of parentheses succeed exactly
if the target and each level do; the query is then that of the target, except that the filters and
the groupings of the levels, from the outermost to the innermost, stand in front of its own.  The
same holds for the three places around an aggregate, and parentheses alone change nothing. -/
theorem Target.outer_in_front :
    (∀ (t : Target) (layers : List Layer) (r : Query),
      (t.withinAll layers).reduce = .ok r ↔
        ∃ q added, t.reduce = .ok q ∧ layers.mapM Layer.reduce = .ok added ∧
          r = (q.withFilters
              (joinPresent (added.reverse.map Added.filters ++ [q.filters]))).withGroupby
            (joinPresent (added.reverse.map Added.groupby ++ [q.groupby]))) ∧
    (∀ (name : String) (params : Option (List Param)) (inner : Selection)
        (own : Option (List String)) (filters : Option TagFilter)
        (groupBy : Option (List String)) (o : Operand),
      (Coefficient.filtered (.call (.aggregate name params inner) own) filters groupBy).reduce =
          .ok o ↔
        ∃ metric f₀ g₀ g₁ f₂ g₂, inner.metric.reduce = .ok metric ∧
          optionally TagFilter.reduce inner.filters = .ok f₀ ∧
          optionally columns inner.groupBy = .ok g₀ ∧
          optionally columns own = .ok g₁ ∧
          optionally TagFilter.reduce filters = .ok f₂ ∧
          optionally columns groupBy = .ok g₂ ∧
          o = .timeseries ⟨metric, name, params.map (·.map Param.toLiteral),
            joinPresent [f₂.map fun f => [f], f₀.map fun f => [f]],
            joinPresent [g₂, g₁, g₀]⟩) ∧
    ∀ t : Target, (t.within ⟨none, none⟩).reduce = t.reduce := by
  refine ⟨fun t layers r => ?_, fun name params inner own filters groupBy o => ?_,
    Target.reduce_within_bare⟩
  · rw [Target.reduce_withinAll]
    simp only [bind_eq_ok, pure_eq_ok, under]
    constructor
    · rintro ⟨q, hq, added, hadded, rfl⟩
      exact ⟨q, added, hq, hadded, rfl⟩
    · rintro ⟨q, added, hq, hadded, rfl⟩
      exact ⟨q, hq, added, hadded, rfl⟩
  · have houtcome (f₀ f₂ : Option Filter) (g₀ g₁ g₂ : Option (List Column)) (metric : Metric) :
        (under [⟨f₂, g₂⟩, ⟨none, g₁⟩, ⟨f₀, g₀⟩] (aggregated metric name params)).toOperand =
          .timeseries ⟨metric, name, params.map (·.map Param.toLiteral),
            joinPresent [f₂.map fun f => [f], f₀.map fun f => [f]],
            joinPresent [g₂, g₁, g₀]⟩ := by
      rw [under_aggregated]
      -- the level of the call has no filter, and what is absent is passed over
      cases f₂ <;> rfl
    rw [Coefficient.reduce_aggregate _ _ _ _ ⟨filters, groupBy⟩]
    simp only [Layer.reduce, bind_assoc, pure_bind, bind_eq_ok, pure_eq_ok, optionally, houtcome]
    constructor
    · rintro ⟨f₀, hf₀, g₀, hg₀, metric, hmetric, g₁, hg₁, f₂, hf₂, g₂, hg₂, rfl⟩
      exact ⟨metric, f₀, g₀, g₁, f₂, g₂, hmetric, hf₀, hg₀, hg₁, hf₂, hg₂, rfl⟩
    · rintro ⟨metric, f₀, g₀, g₁, f₂, g₂, hmetric, hf₀, hg₀, hg₁, hf₂, hg₂, rfl⟩
      exact ⟨f₀, hf₀, g₀, hg₀, metric, hmetric, g₁, hg₁, f₂, hf₂, g₂, hg₂, rfl⟩

end Surface

end MetricQuery
