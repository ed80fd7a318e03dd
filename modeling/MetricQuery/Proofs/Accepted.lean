import MetricQuery.Proofs.Written
import MetricQuery.Proofs.Yields

/-!
# What is read is normal

Whatever text is accepted, the query it stands for has the normal form of queries, and can be
written.

* `Expression.IsSound`       : an expression that gives a normal operand, if it gives one;
* `Grammar.yields_expression` : expressions that are read are sound;
* `Query.isNormal_of_parse`  : accepted queries are normal;
* `Query.accepted_isNormal`  : they can be written, and their metrics pass their own check.
-/

set_option autoImplicit false

namespace MetricQuery

/-! ## Selections of normal queries -/

namespace Query

theorem IsNormal.selection {q : Query} (h : q.IsNormal) : IsSelection q.filters q.groupby := by
  cases q with
  | timeseries t => exact (Operand.isNormal_timeseries.1 h).selection
  | formula f => exact (Operand.isNormal_formula.1 h).1.selection

theorem IsNormal.withFilters {q : Query} (h : q.IsNormal) {filters : Option (List Filter)}
    (hs : IsSelection filters q.groupby) : (q.withFilters filters).IsNormal := by
  cases q with
  | timeseries t =>
    have ht := Operand.isNormal_timeseries.1 h
    exact Operand.isNormal_timeseries.2 ⟨ht.metric, ht.aggregate, ht.parameters, hs⟩
  | formula f =>
    obtain ⟨hf, hos⟩ := Operand.isNormal_formula.1 h
    exact Operand.isNormal_formula.2 ⟨⟨hf.function, hf.parameters, hf.operands, hs⟩, hos⟩

theorem IsNormal.withGroupby {q : Query} (h : q.IsNormal) {groupby : Option (List Column)}
    (hs : IsSelection q.filters groupby) : (q.withGroupby groupby).IsNormal := by
  cases q with
  | timeseries t =>
    have ht := Operand.isNormal_timeseries.1 h
    exact Operand.isNormal_timeseries.2 ⟨ht.metric, ht.aggregate, ht.parameters, hs⟩
  | formula f =>
    obtain ⟨hf, hos⟩ := Operand.isNormal_formula.1 h
    exact Operand.isNormal_formula.2 ⟨⟨hf.function, hf.parameters, hf.operands, hs⟩, hos⟩

end Query

theorem isSelection_none : IsSelection none none := ⟨by simp, by simp, by simp, by simp⟩

/-- The names of operators are names that can be called. -/
theorem isCallName_operator (op : ArithmeticOp) : IsCallName op.name.toList := by
  cases op <;> exact isCallName_of_isFunctionName (by decide)

theorem isCallName_negation : IsCallName negation.toList :=
  isCallName_of_isFunctionName (by decide)

theorem isCallName_placeholder : IsCallName placeholder.toList :=
  isCallName_of_isFunctionName (by decide)

/-- A formula without parameters, filters and grouping is normal if its operands are. -/
theorem isNormal_new {function : String} {operands : List Operand}
    (hname : IsCallName function.toList) (hne : operands ≠ [])
    (h : ∀ o ∈ operands, o.IsNormal) : (Operand.formula (.new function operands)).IsNormal :=
  Operand.isNormal_formula.2 ⟨⟨hname, by simp [AreUnsigned, Formula.new], hne, isSelection_none⟩, h⟩

namespace Surface

open Grammar Scanner Outcome

/-! ## Filters and groupings over a query -/

/-- A filter as it is read, if it is there. -/
def AreSound (filters : Option TagFilter) : Prop :=
  ∀ terms, filters = some terms → TagFilter.IsSound terms

/-- A grouping as it is read, if it is there. -/
def AreNames (groupBy : Option (List String)) : Prop :=
  ∀ names, groupBy = some names → names ≠ [] ∧ ∀ n ∈ names, isName n.toList = true

theorem gives_addFilter {filters : Option TagFilter} {q : Query} (hfilters : AreSound filters)
    (hq : q.IsNormal) : Gives (addFilter filters q) Query.IsNormal := by
  cases filters with
  | none => exact gives_ok hq
  | some terms =>
    refine (gives_filter (hfilters terms rfl)).bind fun f hf => gives_ok ?_
    refine hq.withFilters ⟨by simp, fun g hg => ?_, hq.selection.groupby_ne,
      hq.selection.groupby_writable⟩
    rcases List.mem_cons.1 hg with rfl | hg
    · exact hf
    · exact hq.selection.filters_normal g hg

theorem gives_addGroupBy {groupBy : Option (List String)} {q : Query} (hnames : AreNames groupBy)
    (hq : q.IsNormal) : Gives (addGroupBy groupBy q) Query.IsNormal := by
  cases groupBy with
  | none => exact gives_ok hq
  | some names =>
    obtain ⟨hne, hall⟩ := hnames names rfl
    refine (gives_columns hne hall).bind fun cs hcs => gives_ok ?_
    refine hq.withGroupby ⟨hq.selection.filters_ne, hq.selection.filters_normal, ?_,
      fun c hc => ?_⟩
    · simpa using fun h => absurd h hcs.1
    · rcases List.mem_append.1 hc with hc | hc
      · exact hcs.2 c hc
      · exact hq.selection.groupby_writable c hc

/-- A metric with its filter and its grouping as it is read. -/
structure Selection.HasForm (s : Selection) : Prop where
  metric : s.metric.HasForm
  filters : AreSound s.filters
  groupBy : AreNames s.groupBy

theorem gives_selection {s : Selection} (h : s.HasForm) : Gives s.reduce Timeseries.IsNormal := by
  intro t ht
  rw [Selection.reduce_eq] at ht
  obtain ⟨fs, hfs, ht⟩ := bind_eq_ok.1 ht
  obtain ⟨cs, hcs, ht⟩ := bind_eq_ok.1 ht
  obtain ⟨metric, hmetric, ht⟩ := bind_eq_ok.1 ht
  cases pure_eq_ok.1 ht
  have hfilters : fs ≠ some [] ∧ ∀ f ∈ fs.getD [], f.IsNormal := by
    rcases optionally_eq_ok.1 hfs with ⟨-, rfl⟩ | ⟨terms, fs, hterms, rfl, hread⟩
    · simp
    · obtain ⟨f, hf, hread⟩ := bind_eq_ok.1 hread
      cases pure_eq_ok.1 hread
      simpa using gives_filter (h.filters terms hterms) f hf
  have hgrouping : cs ≠ some [] ∧ ∀ c ∈ cs.getD [], c.IsWritable := by
    rcases optionally_eq_ok.1 hcs with ⟨-, rfl⟩ | ⟨names, cs, hnames, rfl, hread⟩
    · simp
    · obtain ⟨hne, hall⟩ := h.groupBy names hnames
      simpa using gives_columns hne hall cs hread
  exact ⟨gives_metric h.metric metric hmetric, isCallName_placeholder,
    by simp [AreUnsigned, Timeseries.unaggregated, Timeseries.new],
    ⟨hfilters.1, hfilters.2, hgrouping.1, hgrouping.2⟩⟩

/-! ## Calls -/

theorem areUnsigned_some {params : List Param} (h : ∀ p ∈ params, p.toLiteral.IsUnsigned) :
    AreUnsigned (some (params.map Param.toLiteral)) := by
  intro p hp
  obtain ⟨x, hx, rfl⟩ := List.mem_map.1 hp
  exact h x hx

/-- Giving a normal series an aggregate keeps it normal. -/
theorem isNormal_withAggregate {t : Timeseries} {name : String}
    {parameters : Option (List Literal)} (ht : t.IsNormal) (hname : IsCallName name.toList)
    (hparameters : AreUnsigned parameters) : (t.withAggregate name parameters).IsNormal :=
  ⟨ht.metric, hname, hparameters, ht.selection⟩

theorem bareMetric?_eq_some {operands : List Operand} {t : Timeseries}
    (h : bareMetric? operands = some t) : ∃ rest, operands = .timeseries t :: rest := by
  unfold bareMetric? at h
  split at h
  · split at h
    · cases h
    · cases h; exact ⟨_, rfl⟩
  · cases h

theorem gives_apply {name : String} {params : Option (List Param)} {operands : List Operand}
    (hname : IsCallName name.toList)
    (hparams : ∀ ps, params = some ps → ∀ p ∈ ps, p.toLiteral.IsUnsigned)
    (hne : operands ≠ []) (h : ∀ o ∈ operands, o.IsNormal) :
    Gives (apply name params operands) Query.IsNormal := by
  cases params with
  | none =>
    unfold apply applyFunction
    dsimp only
    split
    · exact gives_error _
    · exact gives_ok (isNormal_new hname hne h)
  | some ps =>
    have hps := areUnsigned_some (hparams ps rfl)
    unfold apply applyCurried
    dsimp only
    split
    · rename_i t ht
      obtain ⟨rest, rfl⟩ := bareMetric?_eq_some ht
      split
      · have hseries := Operand.isNormal_timeseries.1 (h (.timeseries t) (by simp))
        exact gives_ok (Operand.isNormal_timeseries.2 (isNormal_withAggregate hseries hname hps))
      · exact gives_error _
    · exact gives_ok (Operand.isNormal_formula.2 ⟨⟨hname, hps, hne, isSelection_none⟩, h⟩)

/-! ## Expressions -/

theorem minValue_lt_neg {n : Int64} (h : Int64.minValue < n) : Int64.minValue < -n := by
  have hlt := n.toInt_lt
  rw [Int64.lt_iff_toInt_lt, Int64.toInt_minValue] at h ⊢
  rw [Int64.toInt_neg, Int.bmod_eq_of_le (by omega) (by omega)]
  omega

theorem negate_ne_nan {x : Double} (h : x ≠ .nan) : x.negate ≠ .nan := by
  cases x <;> simp_all [Double.negate]

theorem gives_negated {o : Operand} (h : o.IsNormal) : Gives (negated o) Operand.IsNormal := by
  cases o with
  | int n => exact gives_ok (Operand.isNormal_int.2 (minValue_lt_neg (Operand.isNormal_int.1 h)))
  | float x => exact gives_ok (Operand.isNormal_float.2 (negate_ne_nan (Operand.isNormal_float.1 h)))
  | string s => exact gives_error _
  | timeseries t => exact gives_ok (isNormal_new isCallName_negation (by simp) (by simpa using h))
  | formula f => exact gives_ok (isNormal_new isCallName_negation (by simp) (by simpa using h))

theorem gives_parenthesized {o : Operand} (h : o.IsNormal) :
    Gives (parenthesized o) Query.IsNormal := by
  cases o with
  | timeseries t => exact gives_ok h
  | formula f => exact gives_ok h
  | int n => exact gives_error _
  | float x => exact gives_error _
  | string s => exact gives_error _

theorem isNormal_arithmetic {op : ArithmeticOp} {a b : Operand} (ha : a.IsNormal)
    (hb : b.IsNormal) : (Operand.formula (.arithmetic op a b)).IsNormal :=
  isNormal_new (isCallName_operator op) (by simp) (by simp [ha, hb])

/-- An expression that gives a normal operand, if it gives one. -/
def Expression.IsSound (e : Expression) : Prop := Gives e.reduce Operand.IsNormal

/-- A term that gives a normal operand, if it gives one. -/
def Term.IsSound (t : Term) : Prop := Gives t.reduce Operand.IsNormal

/-- A signed coefficient that gives a normal operand, if it gives one. -/
def Unary.IsSound (u : Unary) : Prop := Gives u.reduce Operand.IsNormal

/-- A call that gives a normal query, if it gives one. -/
def Call.IsSound (c : Call) : Prop := Gives c.reduce Query.IsNormal

/-- A target that gives a normal query, if it gives one. -/
def Target.IsSound (t : Target) : Prop := Gives t.reduce Query.IsNormal

/-- A coefficient that gives a normal operand, if it gives one. -/
def Coefficient.IsSound (c : Coefficient) : Prop := Gives c.reduce Operand.IsNormal

section

variable {name : String} {params : Option (List Param)}

theorem isSound_aggregate {inner : Selection} (hname : IsCallName name.toList)
    (hparams : ∀ ps, params = some ps → ∀ p ∈ ps, p.toLiteral.IsUnsigned)
    (hinner : inner.HasForm) : (Call.aggregate name params inner).IsSound := by
  have hunsigned : AreUnsigned (params.map (·.map Param.toLiteral)) := by
    cases params with
    | none => simp [AreUnsigned]
    | some ps => exact areUnsigned_some (hparams ps rfl)
  unfold Call.IsSound
  rw [Call.reduce]
  exact (gives_selection hinner).bind fun t ht =>
    gives_ok (Operand.isNormal_timeseries.2 (isNormal_withAggregate ht hname hunsigned))

theorem isSound_function {args : List Expression} (hname : IsCallName name.toList)
    (hparams : ∀ ps, params = some ps → ∀ p ∈ ps, p.toLiteral.IsUnsigned)
    (hargs : args ≠ [] ∧ ∀ e ∈ args, e.IsSound) : (Call.function name params args).IsSound := by
  unfold Call.IsSound
  rw [Call.reduce, reduceArguments_eq]
  exact (gives_mapM hargs.1 hargs.2).bind fun operands h => gives_apply hname hparams h.1 h.2

end

theorem Target.isSound_nested {e : Expression} (h : e.IsSound) : (Target.nested e).IsSound := by
  unfold Target.IsSound
  rw [Target.reduce]
  exact h.bind fun o ho => gives_parenthesized ho

theorem Target.isSound_call {c : Call} {groupBy : Option (List String)} (h : c.IsSound)
    (hnames : AreNames groupBy) : (Target.call c groupBy).IsSound := by
  unfold Target.IsSound
  rw [Target.reduce]
  exact h.bind fun q hq => gives_addGroupBy hnames hq

theorem Target.isSound_metric {m : MetricRef} (h : m.HasForm) : (Target.metric m).IsSound := by
  unfold Target.IsSound
  rw [Target.reduce]
  exact (gives_metric h).bind fun metric hmetric => gives_ok (Operand.isNormal_timeseries.2
    ⟨hmetric, isCallName_placeholder, by simp [AreUnsigned, Timeseries.unaggregated,
      Timeseries.new], isSelection_none⟩)

theorem Coefficient.isSound_filtered {t : Target} {filters : Option TagFilter}
    {groupBy : Option (List String)} (h : t.IsSound) (hfilters : AreSound filters)
    (hnames : AreNames groupBy) : (Coefficient.filtered t filters groupBy).IsSound := by
  unfold Coefficient.IsSound
  rw [Coefficient.reduce]
  exact h.bind fun q hq => (gives_addFilter hfilters hq).bind fun q hq =>
    (gives_addGroupBy hnames hq).bind fun q hq => gives_ok hq

theorem Unary.isSound_mk {negated : Bool} {c : Coefficient} (h : c.IsSound) :
    (Unary.mk negated c).IsSound := by
  unfold Unary.IsSound
  rw [Unary.reduce]
  refine h.bind fun o ho => ?_
  cases negated with
  | false => exact gives_ok ho
  | true => exact gives_negated ho

theorem Term.isSound_ofList {first : Unary} {rest : List (ArithmeticOp × Unary)}
    (hfirst : first.IsSound) (hrest : ∀ step ∈ rest, step.2.IsSound) :
    (ofList first rest).IsSound := by
  refine List.foldlRecOn rest _ ?_ fun lhs hlhs step hstep => ?_
  · unfold Term.IsSound
    rw [Term.reduce]
    exact hfirst
  · unfold Term.IsSound
    rw [Term.reduce]
    exact hlhs.bind fun a ha => (hrest step hstep).bind fun b hb =>
      gives_ok (isNormal_arithmetic ha hb)

theorem Expression.isSound_ofList {first : Term} {rest : List (ArithmeticOp × Term)}
    (hfirst : first.IsSound) (hrest : ∀ step ∈ rest, step.2.IsSound) :
    (ofList first rest).IsSound := by
  refine List.foldlRecOn rest _ ?_ fun lhs hlhs step hstep => ?_
  · unfold Expression.IsSound
    rw [Expression.reduce]
    exact hfirst
  · unfold Expression.IsSound
    rw [Expression.reduce]
    exact hlhs.bind fun a ha => (hrest step hstep).bind fun b hb =>
      gives_ok (isNormal_arithmetic ha hb)

end Surface

namespace Grammar

open Scanner Surface Outcome

/-! ## What the scanners of expressions yield -/

theorem yields_optionalBraces : Yields optionalBraces AreSound := by
  have hbraces : Yields braces AreSound := by
    refine (Yields.attempt yields_tagFilter.between).between.imp ?_
    exact fun found h => h
  refine hbraces.attempt.bind fun found h => yields_pure ?_
  cases found with
  | none => simp [AreSound]
  | some filters => exact h filters rfl

theorem yields_groupBy :
    Yields groupBy fun names => names ≠ [] ∧ ∀ n ∈ names, isName n.toList = true := by
  refine yields_bind fun _ => yields_bind fun _ => yields_bind fun _ => Yields.firstOf_cons ?_
    (Yields.firstOf_cons ?_ yields_firstOf_nil)
  · exact yields_name.bind fun n hn => yields_pure (by simpa using hn)
  · exact (Yields.sepBy yields_name).parens

theorem yields_selection : Yields selection Selection.HasForm :=
  yields_metric.bind fun _ hm => yields_optionalBraces.bind fun _ hfilters =>
    yields_groupBy.attempt.bind fun _ hnames => yields_pure ⟨hm, hfilters, hnames⟩

/-- A name that is read where no integer is can be called. -/
theorem isCallName_of_functionName {s r : List Char} {f : String}
    (h : functionName s = some (f, r)) (hint : intNumeral s = none) : IsCallName f.toList := by
  obtain ⟨w, r', hw, h⟩ := bind_eq_some_iff.1 h
  cases h
  obtain ⟨rfl, hne, hall, hstop⟩ := takeSome_eq_some_iff.1 hw
  rw [String.toList_ofList]
  refine ⟨hne, hall, ?_⟩
  have hdigits : (w ++ r).takeWhile Char.isDigit = w.takeWhile Char.isDigit :=
    takeWhile_append_stops (hstop.mono fun _ => isFunctionChar_of_isDigit)
  by_cases hempty : w.takeWhile Char.isDigit = []
  · exact .inl hempty
  · refine .inr (Nat.le_of_not_lt fun hlt => ?_)
    have hrun := takeSome_of_ne_nil (s := w ++ r) (hdigits ▸ hempty)
    rw [hdigits] at hrun
    exact absurd hlt (Nat.not_lt.2 (intNumeral_eq_none_iff.1 hint _ _ hrun))

theorem yields_curriedHead : Yields curriedHead fun head =>
    ∀ p ∈ head.2, p.toLiteral.IsUnsigned := by
  refine yields_bind fun f => (Yields.attempt (Yields.sepBy yields_param)).parens.bind
    fun found h => yields_pure ?_
  cases found with
  | none => simp
  | some params => exact (h params rfl).2

/-- The name of a curried head is what is read as a name. -/
theorem functionName_of_curriedHead {s r : List Char} {f : String} {params : List Param}
    (h : curriedHead s = some ((f, params), r)) : ∃ t, functionName s = some (f, t) := by
  obtain ⟨f', t, hf, h⟩ := bind_eq_some_iff.1 h
  obtain ⟨found, u, -, h⟩ := bind_eq_some_iff.1 h
  cases h
  exact ⟨t, hf⟩

section

variable {nested : Scanner Expression}

theorem yields_arguments (h : Yields nested Expression.IsSound) :
    Yields (arguments nested) fun args => args ≠ [] ∧ ∀ e ∈ args, e.IsSound :=
  (Yields.sepBy h).parens

theorem isSound_of_call (h : Yields nested Expression.IsSound) {s r : List Char} {c : Call}
    (hint : intNumeral s = none) (hc : call nested s = some (c, r)) : c.IsSound := by
  rcases firstOf_cons_eq_some_iff.1 hc with hc | ⟨-, hc⟩
  · obtain ⟨⟨f, params⟩, t, hhead, hc⟩ := bind_eq_some_iff.1 hc
    obtain ⟨inner, u, hinner, hc⟩ := bind_eq_some_iff.1 hc
    cases hc
    obtain ⟨v, hf⟩ := functionName_of_curriedHead hhead
    exact isSound_aggregate (isCallName_of_functionName hf hint)
      (by rintro ps ⟨⟩; exact yields_curriedHead _ _ _ hhead) (yields_selection.parens _ _ _ hinner)
  rcases firstOf_cons_eq_some_iff.1 hc with hc | ⟨-, hc⟩
  · obtain ⟨⟨f, params⟩, t, hhead, hc⟩ := bind_eq_some_iff.1 hc
    obtain ⟨args, u, hargs, hc⟩ := bind_eq_some_iff.1 hc
    cases hc
    obtain ⟨v, hf⟩ := functionName_of_curriedHead hhead
    exact isSound_function (isCallName_of_functionName hf hint)
      (by rintro ps ⟨⟩; exact yields_curriedHead _ _ _ hhead) (yields_arguments h _ _ _ hargs)
  rcases firstOf_cons_eq_some_iff.1 hc with hc | ⟨-, hc⟩
  · obtain ⟨f, t, hf, hc⟩ := bind_eq_some_iff.1 hc
    obtain ⟨inner, u, hinner, hc⟩ := bind_eq_some_iff.1 hc
    cases hc
    exact isSound_aggregate (isCallName_of_functionName hf hint) (by simp)
      (yields_selection.parens _ _ _ hinner)
  rcases firstOf_cons_eq_some_iff.1 hc with hc | ⟨-, hc⟩
  · obtain ⟨f, t, hf, hc⟩ := bind_eq_some_iff.1 hc
    obtain ⟨args, u, hargs, hc⟩ := bind_eq_some_iff.1 hc
    cases hc
    exact isSound_function (isCallName_of_functionName hf hint) (by simp)
      (yields_arguments h _ _ _ hargs)
  · cases hc

theorem isSound_of_target (h : Yields nested Expression.IsSound) {s r : List Char} {t : Target}
    (hint : intNumeral s = none) (ht : target nested s = some (t, r)) : t.IsSound := by
  rcases firstOf_cons_eq_some_iff.1 ht with ht | ⟨-, ht⟩
  · obtain ⟨v, u, -, ht⟩ := bind_eq_some_iff.1 ht
    cases ht
    unfold Target.IsSound
    rw [Target.reduce]
    exact gives_error _
  rcases firstOf_cons_eq_some_iff.1 ht with ht | ⟨-, ht⟩
  · obtain ⟨e, u, he, ht⟩ := bind_eq_some_iff.1 ht
    cases ht
    exact Target.isSound_nested (h.parens _ _ _ he)
  rcases firstOf_cons_eq_some_iff.1 ht with ht | ⟨-, ht⟩
  · obtain ⟨c, u, hc, ht⟩ := bind_eq_some_iff.1 ht
    obtain ⟨grouping, v, hgrouping, ht⟩ := bind_eq_some_iff.1 ht
    cases ht
    exact Target.isSound_call (isSound_of_call h hint hc) (yields_groupBy.attempt _ _ _ hgrouping)
  rcases firstOf_cons_eq_some_iff.1 ht with ht | ⟨-, ht⟩
  · obtain ⟨m, u, hm, ht⟩ := bind_eq_some_iff.1 ht
    cases ht
    exact Target.isSound_metric (yields_metric _ _ _ hm)
  · cases ht

theorem ne_nan_of_isUnsigned {x : Double} (h : x.isUnsigned = true) : x ≠ .nan := by
  rintro rfl
  cases h

theorem yields_coefficient (h : Yields nested Expression.IsSound) :
    Yields (coefficient nested) Coefficient.IsSound := by
  intro s c r hc
  rcases firstOf_cons_eq_some_iff.1 hc with hc | ⟨-, hc⟩
  · obtain ⟨x, t, hx, hc⟩ := bind_eq_some_iff.1 hc
    cases hc
    unfold Coefficient.IsSound
    rw [Coefficient.reduce]
    exact gives_ok (Operand.isNormal_float.2
      (ne_nan_of_isUnsigned (yields_floatNumeral _ _ _ hx)))
  rcases firstOf_cons_eq_some_iff.1 hc with hc | ⟨hint, hc⟩
  · obtain ⟨n, t, hn, hc⟩ := bind_eq_some_iff.1 hc
    cases hc
    unfold Coefficient.IsSound
    rw [Coefficient.reduce]
    exact gives_ok (Operand.isNormal_int.2 (minValue_lt_of_nonneg (yields_intNumeral _ _ _ hn)))
  rcases firstOf_cons_eq_some_iff.1 hc with hc | ⟨-, hc⟩
  · obtain ⟨x, t, -, hc⟩ := bind_eq_some_iff.1 hc
    cases hc
    unfold Coefficient.IsSound
    rw [Coefficient.reduce]
    exact gives_ok (Operand.isNormal_string x)
  rcases firstOf_cons_eq_some_iff.1 hc with hc | ⟨-, hc⟩
  · -- no integer stands here, so that a name can be called
    have hnone : intNumeral s = none := by
      cases hn : intNumeral s with
      | none => rfl
      | some found => rw [bind_of_some _ hn] at hint; cases hint
    obtain ⟨t, u, ht, hc⟩ := bind_eq_some_iff.1 hc
    obtain ⟨filters, v, hfilters, hc⟩ := bind_eq_some_iff.1 hc
    obtain ⟨grouping, w, hgrouping, hc⟩ := bind_eq_some_iff.1 hc
    cases hc
    exact Coefficient.isSound_filtered (isSound_of_target h hnone ht)
      (yields_optionalBraces _ _ _ hfilters) (yields_groupBy.attempt _ _ _ hgrouping)
  · cases hc

theorem yields_unary (h : Yields nested Expression.IsSound) :
    Yields (unary nested) Unary.IsSound :=
  yields_bind fun _ => (yields_coefficient h).bind fun _ hc => yields_pure (Unary.isSound_mk hc)

theorem yields_term (h : Yields nested Expression.IsSound) : Yields (term nested) Term.IsSound := by
  refine (yields_unary h).bind fun first hfirst => ?_
  have hstep : Yields (do
      let op ← operator ('*', .multiply) ('/', .divide)
      let u ← unary nested
      pure (op, u)) fun step => step.2.IsSound :=
    yields_bind fun _ => (yields_unary h).bind fun _ hu => yields_pure hu
  exact hstep.many.bind fun rest hrest => yields_pure (Term.isSound_ofList hfirst hrest)

theorem yields_expressionOver (h : Yields nested Expression.IsSound) :
    Yields (expressionOver nested) Expression.IsSound := by
  refine (yields_term h).bind fun first hfirst => ?_
  have hstep : Yields (do
      let op ← operator ('+', .plus) ('-', .minus)
      let t ← term nested
      pure (op, t)) fun step => step.2.IsSound :=
    yields_bind fun _ => (yields_term h).bind fun _ ht => yields_pure ht
  exact hstep.many.bind fun rest hrest => yields_pure (Expression.isSound_ofList hfirst hrest)

end

theorem yields_expressionWithin (depth : Nat) :
    Yields (expressionWithin depth) Expression.IsSound := by
  induction depth with
  | zero => exact fun _ _ _ h => nomatch h
  | succ depth ih => exact yields_expressionOver ih

/-- **Expressions that are read are sound.** -/
theorem yields_expression : Yields expression Expression.IsSound :=
  fun s _ _ h => yields_expressionWithin _ s _ _ ((bounded_apply _ s).symm.trans h)

end Grammar

/-! ## Accepted texts -/

namespace Query

open Outcome

/-- A text is accepted when an expression takes all of it and is a query. -/
theorem parse_eq_ok {text : String} {q : Query} :
    parse text = .ok q ↔
      ∃ e, Grammar.expression (Text.trim text.toList) = some (e, []) ∧ e.query = .ok q := by
  unfold parse
  constructor
  · intro h
    split at h
    · rename_i e he
      exact ⟨e, parseTrimmed_eq_ok.1 he, h⟩
    · cases h
  · rintro ⟨e, he, hq⟩
    have hparse : MetricQuery.parse text = .ok e := parseTrimmed_eq_ok.2 he
    rw [hparse]
    exact hq

/-- The query of an expression is the operand that the expression stands for. -/
theorem query_eq_ok {e : Surface.Expression} {q : Query} :
    e.query = .ok q ↔ e.reduce = .ok q.toOperand := by
  unfold Surface.Expression.query
  rw [bind_eq_ok]
  constructor
  · rintro ⟨o, ho, h⟩
    rw [ho]
    cases o <;> cases h <;> rfl
  · intro h
    exact ⟨q.toOperand, h, by rw [ofOperand_toOperand]⟩

/-- Accepted queries are normal. -/
theorem isNormal_of_parse {text : String} {q : Query} (h : parse text = .ok q) : q.IsNormal := by
  obtain ⟨e, he, hq⟩ := parse_eq_ok.1 h
  exact Grammar.yields_expression _ _ _ he _ (query_eq_ok.1 hq)

/-- **Everything that is accepted has the normal form of queries.**  It can be written, and every
metric in it passes its check. -/
theorem accepted_isNormal {text : String} {q : Query} (h : parse text = .ok q) :
    q.IsNormal ∧ (∃ written, q.print = .ok written) ∧
      ∀ t, Operand.timeseries t ∈ q.toOperand.nodes → t.metric.validate = .ok () := by
  have hq := isNormal_of_parse h
  exact ⟨hq, hq.exists_print, fun t ht => (hq _ ht).metric.validate_eq⟩

/-- A text with a sign, a pattern, a curried call and a grouping is accepted. -/
theorem accepted_isNormal_sum :
    ∃ q, parse "-sum(foo)\x7bk:\"a*\"\x7d + p(0.5)(`d:a/b@c`) by k" = .ok q ∧
      q.IsNormal ∧ (∃ written, q.print = .ok written) ∧
        ∀ t, Operand.timeseries t ∈ q.toOperand.nodes → t.metric.validate = .ok () := by
  obtain ⟨q, hq⟩ := exists_of_isSome
    (x := parse "-sum(foo)\x7bk:\"a*\"\x7d + p(0.5)(`d:a/b@c`) by k") (by decide +kernel)
  exact ⟨q, hq, accepted_isNormal hq⟩

end Query

end MetricQuery
