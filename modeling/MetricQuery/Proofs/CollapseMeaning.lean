import Mathlib.Data.List.Forall2
import MetricQuery.Collapse

/-!
# Collapsing keeps the meaning

A group of alternatives and the condition that it collapses to are true together, whatever
conditions are taken to mean, as long as `IN` means what it says.

* `Interpretation`                : a meaning of conditions;
* `Filter.holds`                  : the truth of a filter under it;
* `Filter.holds_of_collapse?`     : a group and what it collapses to are true together;
* `Query.collapse_keeps_meaning`  : so are the filters of a query, and all else stays as it is.
-/

set_option autoImplicit false

namespace MetricQuery

/-! ## The truth of filters -/

/-- A meaning of conditions: it is blind to aliases on the left-hand side, and `IN` is true where
one of the equalities is.  All else is left open. -/
structure Interpretation where
  holds : Condition → Prop
  holds_same : ∀ {lhs lhs' : Expr} (op : Comparison) (rhs : Option Expr), lhs.same lhs' = true →
    (holds ⟨lhs, op, rhs⟩ ↔ holds ⟨lhs', op, rhs⟩)
  holds_isIn : ∀ (lhs : Expr) (values : List Literal),
    holds ⟨lhs, .isIn, some (.literal (.array values))⟩ ↔
      ∃ v ∈ values, holds ⟨lhs, .eq, some (.literal v)⟩

/-- The meaning over rows of texts: a column is equal to the text that the row has under its name,
and nothing else is true. -/
def Interpretation.ofRow (row : String → String) : Interpretation where
  holds
    | ⟨.column c, .eq, some (.literal v)⟩ => v = .string (row c.name)
    | ⟨.column c, .isIn, some (.literal (.array values))⟩ => .string (row c.name) ∈ values
    | _ => False
  holds_same {lhs lhs'} op rhs h := by
    cases lhs <;> cases lhs' <;> simp [Expr.same] at h
    · rw [h]
    · rfl
    · rfl
  holds_isIn lhs values := by
    cases lhs <;> simp

mutual

/-- The truth of a filter: groups are conjunctions and disjunctions. -/
def Filter.holds (I : Interpretation) : Filter → Prop
  | .condition c => I.holds c
  | .group .and members => Filter.allHold I members
  | .group .or members => Filter.someHolds I members

/-- Whether all filters are true. -/
def Filter.allHold (I : Interpretation) : List Filter → Prop
  | [] => True
  | f :: rest => f.holds I ∧ Filter.allHold I rest

/-- Whether some filter is true. -/
def Filter.someHolds (I : Interpretation) : List Filter → Prop
  | [] => False
  | f :: rest => f.holds I ∨ Filter.someHolds I rest

end

namespace Filter

variable (I : Interpretation)

theorem allHold_iff {fs : List Filter} : allHold I fs ↔ ∀ f ∈ fs, f.holds I := by
  induction fs with
  | nil => simp [allHold]
  | cons f fs ih => simp [allHold, ih]

theorem someHolds_iff {fs : List Filter} : someHolds I fs ↔ ∃ f ∈ fs, f.holds I := by
  induction fs with
  | nil => simp [someHolds]
  | cons f fs ih => simp [someHolds, ih]

/-! ## Groups that collapse -/

theorem equality?_eq_some {f : Filter} {lhs : Expr} {v : Literal}
    (h : f.equality? = some (lhs, v)) : f = .condition ⟨lhs, .eq, some (.literal v)⟩ := by
  unfold equality? at h
  split at h
  · cases h; rfl
  · cases h

/-- The equalities of one side are true where that side is equal to one of the values. -/
theorem someHolds_of_valuesOf? {lhs : Expr} {fs : List Filter} {values : List Literal}
    (h : valuesOf? lhs fs = some values) :
    someHolds I fs ↔ ∃ v ∈ values, I.holds ⟨lhs, .eq, some (.literal v)⟩ := by
  induction fs generalizing values with
  | nil =>
    cases h
    simp [someHolds]
  | cons f fs ih =>
    rw [valuesOf?] at h
    obtain ⟨⟨side, v⟩, hf, h⟩ := Option.bind_eq_some_iff.1 h
    dsimp only at h
    split at h
    · rename_i hsame
      obtain ⟨vs, hvs, h⟩ := Option.bind_eq_some_iff.1 h
      cases h
      rw [someHolds, ih hvs, equality?_eq_some hf, Filter.holds, ← I.holds_same _ _ hsame]
      simp
    · cases h

/-- **A group and what it collapses to are true together.** -/
theorem holds_of_collapse? {f g : Filter} (h : f.collapse? = some g) :
    g.holds I ↔ f.holds I := by
  unfold collapse? at h
  split at h
  · rename_i first rest
    obtain ⟨⟨lhs, v⟩, hfirst, h⟩ := Option.bind_eq_some_iff.1 h
    obtain ⟨vs, hvs, h⟩ := Option.bind_eq_some_iff.1 h
    cases h
    rw [Filter.holds, Filter.holds, I.holds_isIn, someHolds, someHolds_of_valuesOf? I hvs,
      equality?_eq_some hfirst, Filter.holds]
    simp
  · cases h

theorem holds_collapse (f : Filter) : f.collapse.holds I ↔ f.holds I := by
  unfold collapse
  cases h : f.collapse? with
  | none => rfl
  | some g => exact holds_of_collapse? I h

/-- A list is left alone exactly if no filter of it collapses. -/
theorem collapseAll?_eq_none {fs : List Filter} :
    collapseAll? fs = none ↔ ∀ f ∈ fs, f.collapse? = none := by
  unfold collapseAll?
  by_cases h : collapsible fs = 0
  · rw [if_pos h]
    exact iff_of_true rfl (by simpa [collapsible, List.countP_eq_zero] using h)
  · rw [if_neg h]
    exact iff_of_false (by simp) (by simpa [collapsible, List.countP_eq_zero] using h)

theorem eq_of_collapseAll? {fs out : List Filter} (h : collapseAll? fs = some out) :
    out = fs.map collapse := by
  unfold collapseAll? at h
  split at h
  · cases h
  · exact (Option.some.inj h).symm

/-- A list that has nothing to collapse is what rewriting each filter makes of it. -/
theorem collapseAll?_getD (fs : List Filter) : (collapseAll? fs).getD fs = fs.map collapse := by
  cases h : collapseAll? fs with
  | some out => exact eq_of_collapseAll? h
  | none =>
    have hself : fs.map collapse = fs.map id :=
      List.map_congr_left fun f hf => by rw [collapse, collapseAll?_eq_none.1 h f hf]; rfl
    rw [hself, List.map_id]
    rfl

/-- A list that is rewritten has the same length, and its members are true where they were. -/
theorem forall₂_of_collapseAll? {fs out : List Filter} (h : collapseAll? fs = some out) :
    List.Forall₂ (fun g f => g.holds I ↔ f.holds I) out fs := by
  rw [eq_of_collapseAll? h, List.forall₂_map_left_iff, List.forall₂_same]
  exact fun f _ => holds_collapse I f

/-- Members that are true together make conjunctions that are. -/
theorem allHold_congr {fs gs : List Filter}
    (h : List.Forall₂ (fun g f => g.holds I ↔ f.holds I) gs fs) : allHold I gs ↔ allHold I fs := by
  induction h with
  | nil => rfl
  | cons hgf _ ih => rw [allHold, allHold, hgf, ih]

end Filter

namespace Query

/-- Whether the filters at the root of a query are true. -/
def selects (I : Interpretation) (q : Query) : Prop := Filter.allHold I (q.filters.getD [])

theorem selects_collapse (I : Interpretation) (q : Query) : q.collapse.selects I ↔ q.selects I := by
  unfold collapse
  split
  · rename_i out hout
    obtain ⟨fs, hfs, hcollapse⟩ := Option.bind_eq_some_iff.1 hout
    unfold selects
    rw [filters_withFilters, hfs]
    exact Filter.allHold_congr I (Filter.forall₂_of_collapseAll? I hcollapse)
  · rfl

/-- Nothing but the filters at the root changes. -/
theorem collapse_eq_withFilters (q : Query) : q.collapse = q.withFilters q.collapse.filters := by
  unfold collapse
  split
  · rw [filters_withFilters]
  · obtain t | ⟨function, parameters, operands, filters, groupby⟩ := q <;> rfl

/-- **Collapsing keeps the meaning of filters.**  Under every interpretation, a list that is
rewritten is as long as it was, each of its members is true where it was, and so are all of them
together.  In a query that is rewritten the same rows are selected, and all but the filters at its
root is as it was. -/
theorem collapse_keeps_meaning (I : Interpretation) :
    (∀ fs out, Filter.collapseAll? fs = some out →
      out.length = fs.length ∧ (∀ pair ∈ out.zip fs, pair.1.holds I ↔ pair.2.holds I) ∧
        (Filter.allHold I out ↔ Filter.allHold I fs)) ∧
    ∀ q : Query, q.collapse = q.withFilters q.collapse.filters ∧
      (q.collapse.selects I ↔ q.selects I) := by
  refine ⟨fun fs out h => ?_, fun q => ⟨q.collapse_eq_withFilters, q.selects_collapse I⟩⟩
  have hall := Filter.forall₂_of_collapseAll? I h
  exact ⟨hall.length_eq, fun pair hpair => List.forall₂_zip hall hpair,
    Filter.allHold_congr I hall⟩

/-- Two equalities of one column collapse, and mean what they did in a row with one of the
values. -/
theorem collapse_keeps_meaning_pair :
    let row := Interpretation.ofRow fun _ => "y"
    let fs := [Filter.group .or [.condition (.ofColumn "a" .eq (.string "x")),
      .condition (.ofColumn "a" .eq (.string "y"))]]
    let out := [Filter.condition (.ofColumn "a" .isIn (.ofStrings ["x", "y"]))]
    Filter.collapseAll? fs = some out ∧ out.length = fs.length ∧
      (∀ pair ∈ out.zip fs, pair.1.holds row ↔ pair.2.holds row) ∧
        (Filter.allHold row out ↔ Filter.allHold row fs) :=
  ⟨rfl, (collapse_keeps_meaning (.ofRow fun _ => "y")).1 _ _ rfl⟩

end Query

end MetricQuery
