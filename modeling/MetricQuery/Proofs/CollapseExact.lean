import MetricQuery.Proofs.CollapseValidity

/-!
# Which filters collapse

Of a list of filters the choices are rewritten, each to the condition that its side is one of its
values, and nothing else is.  What comes out holds no choice, so that a second run finds nothing to
rewrite.

* `Filter.Rewrites`              : a filter and what stands in its place;
* `Filter.rewrites_collapse`     : one filter of a list;
* `Filter.collapseAll?_eq_none`  : nothing is rewritten exactly if no filter is a choice;
* `Filter.collapseAll?_collapse` : what was rewritten once is not rewritten again;
* `Query.collapse_exact`         : the rewriting of lists and of queries.
-/

set_option autoImplicit false

namespace MetricQuery

namespace Filter

variable {f g : Filter} {fs out : List Filter}

/-! ## One filter -/

/-- What stands in the place of a filter: a condition in that of a choice, and the filter itself in
that of anything else. -/
inductive Rewrites : Filter → Filter → Prop where
  | choice {f : Filter} {lhs : Expr} {values : List Literal} (h : f.IsChoice lhs values) :
      Rewrites f (.condition ⟨lhs, .isIn, some (.literal (.array values))⟩)
  | other {f : Filter} (h : ∀ lhs values, ¬ f.IsChoice lhs values) : Rewrites f f

/-- A choice whose first side is equal to itself, so that the side of every alternative is equal to
that of the first. -/
def IsEven (f : Filter) : Prop := ∃ lhs values, f.IsChoice lhs values ∧ lhs.same lhs = true

theorem collapse?_eq_none : f.collapse? = none ↔ ∀ lhs values, ¬ f.IsChoice lhs values := by
  rw [Option.eq_none_iff_forall_ne_some]
  constructor
  · intro h lhs values hchoice
    exact h _ (collapse?_eq_some.2 ⟨lhs, values, hchoice, rfl⟩)
  · intro h g hg
    obtain ⟨lhs, values, hchoice, -⟩ := collapse?_eq_some.1 hg
    exact h lhs values hchoice

/-- **A choice becomes a condition, and any other filter stays.** -/
theorem rewrites_collapse (f : Filter) : f.Rewrites f.collapse := by
  unfold collapse
  cases h : f.collapse? with
  | none => exact .other (collapse?_eq_none.1 h)
  | some g =>
    obtain ⟨lhs, values, hchoice, rfl⟩ := collapse?_eq_some.1 h
    exact .choice hchoice

/-- A condition is no choice, nor is what was none before. -/
theorem Rewrites.collapse?_eq (h : f.Rewrites g) : g.collapse? = none := by
  cases h with
  | choice _ => rfl
  | other hnot => exact collapse?_eq_none.2 hnot

/-! ## Lists of filters -/

/-- **What was rewritten once is not rewritten again.** -/
theorem collapseAll?_collapse (fs : List Filter) : collapseAll? (fs.map collapse) = none := by
  rw [collapseAll?_eq_none, List.forall_mem_map]
  exact fun f _ => f.rewrites_collapse.collapse?_eq

end Filter

namespace Query

/-! ## Queries -/

theorem collapse_collapse (q : Query) : q.collapse.collapse = q.collapse := by
  have hnone : q.collapse.filters.bind Filter.collapseAll? = none := by
    cases h : q.filters.bind Filter.collapseAll? with
    | none =>
      have hsame : q.collapse = q := by rw [collapse, h]
      rw [hsame, h]
    | some out =>
      obtain ⟨fs, -, hcollapse⟩ := Option.bind_eq_some_iff.1 h
      have hfilters : q.collapse.filters = some out := by rw [collapse, h, filters_withFilters]
      rw [hfilters, Option.bind_some, Filter.eq_of_collapseAll? hcollapse,
        Filter.collapseAll?_collapse]
  rw [collapse, hnone]

/-- **Choices are rewritten and nothing else is.**  A list of filters is left as it is exactly if
none of them is a choice.  Otherwise each of them has its condition, or itself, in its place, and the
list that comes out is not rewritten again; nor is a query. -/
theorem collapse_exact :
    (∀ fs, Filter.collapseAll? fs = none ↔ ∀ f ∈ fs, ∀ lhs values, ¬ f.IsChoice lhs values) ∧
    (∀ fs out, Filter.collapseAll? fs = some out →
      out.length = fs.length ∧ List.Forall₂ Filter.Rewrites fs out ∧
        Filter.collapseAll? out = none) ∧
    ∀ q : Query, q.collapse.collapse = q.collapse := by
  refine ⟨fun fs => ?_, fun fs out h => ?_, collapse_collapse⟩
  · rw [Filter.collapseAll?_eq_none]
    exact forall₂_congr fun f _ => Filter.collapse?_eq_none
  · obtain rfl := Filter.eq_of_collapseAll? h
    refine ⟨List.length_map _, ?_, Filter.collapseAll?_collapse fs⟩
    rw [List.forall₂_map_right_iff, List.forall₂_same]
    exact fun f _ => f.rewrites_collapse

/-- Between a group that holds another and a conjunction, a choice with a value that is there
twice. -/
theorem collapse_exact_twice :
    let a := fun text => Filter.equality (.column ⟨"a"⟩) (.string text)
    let nested := Filter.group .or [a "x", .group .or [a "y", a "z"]]
    let both := Filter.group .and [a "x", a "y"]
    let out := [nested, .condition (.ofColumn "a" .isIn (.ofStrings ["x", "y", "x"])), both]
    Filter.collapseAll? [nested, .group .or [a "x", a "y", a "x"], both] = some out ∧
      List.Forall₂ Filter.Rewrites [nested, .group .or [a "x", a "y", a "x"], both] out ∧
      Filter.collapseAll? out = none :=
  ⟨rfl, (collapse_exact.2.1 _ _ rfl).2⟩

/-- A side that holds a NaN is not equal to itself.  An equality with such a side collapses alone all
the same: the side of the first alternative is not compared with itself. -/
theorem collapse_exact_nan :
    let side := Expr.call "f" none [.literal (.float .nan)] none
    let alone := Filter.group .or [.equality side (.int 1)]
    ¬ (Filter.collapseAll? [alone] = none ↔ ∀ f ∈ [alone], ¬ f.IsEven) := by
  intro side alone
  have hcollapse : Filter.collapseAll? [alone] =
      some [.condition ⟨side, .isIn, some (.literal (.array [.int 1]))⟩] := rfl
  have huneven : ∀ f ∈ [alone], ¬ f.IsEven := by
    intro f hf
    rw [List.mem_singleton.1 hf]
    rintro ⟨lhs, values, hchoice, hsame⟩
    have hside : Filter.condition ⟨lhs, .isIn, some (.literal (.array values))⟩ =
        .condition ⟨side, .isIn, some (.literal (.array [.int 1]))⟩ :=
      Option.some.inj ((Filter.collapse?_eq_some.2 ⟨lhs, values, hchoice, rfl⟩).symm.trans rfl)
    cases hside
    exact absurd hsame (by decide)
  intro h
  rw [h.2 huneven] at hcollapse
  cases hcollapse

end Query

end MetricQuery
