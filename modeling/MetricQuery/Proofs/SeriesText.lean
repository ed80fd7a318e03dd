import MetricQuery.Proofs.ArgumentText

/-!
# Series in a text

A series is a call of a metric.  If it has parameters it is read back, with what they are taken for;
if it has none, it is read back unless its identifier is captured.

* `marks_curriedCall`          : what a call with parameters leaves;
* `Operand.returns_timeseries` : a series is read back;
* `Operand.strays_timeseries`  : where it is not, what is read departs from it.
-/

set_option autoImplicit false

namespace MetricQuery

open Grammar Scanner Surface Outcome

/-! ## Calls of a metric -/

namespace Grammar

/-- No metric starts with a blank. -/
theorem stops_isBlank_of_metric {s t : List Char} {m : MetricRef} (h : metric s = some (m, t)) :
    Stops Text.isBlank s := by
  intro c hc
  rw [← Bool.not_eq_true]
  intro hblank
  have hmri : isMriChar c = false := by simp [isMriChar, hblank]
  have hpublic : isPublicChar c = false := by
    rw [← Bool.not_eq_true]
    intro hp
    rw [isBlank_of_isNameChar (isNameChar_of_isFunctionChar (isFunctionChar_of_isPublicChar hp))]
      at hblank
    cases hblank
  have hbare : bareMri s = none :=
    bind_of_none _ (takeSome_eq_none (stops_of_head? hc (by simp [hmri])))
  have hquote : s.head? ≠ some backQuote := by
    rw [Option.mem_def.1 hc]
    rintro ⟨⟩
    exact absurd hblank (by decide)
  rw [metric_eq_none hquote hbare (stops_of_head? hc hpublic)] at h
  cases h

/-- A metric in parentheses is a selection without a filter. -/
theorem selection_metric {m : Metric} {text : String} (hm : m.IsNamed) (ht : m.print = .ok text) :
    ∃ ref : MetricRef, ref.reduce = .ok m ∧ ∀ r,
      parens selection ('(' :: (text.toList ++ ')' :: r)) = some (⟨ref, none, none⟩, r) := by
  obtain ⟨ref, hreduce, hread⟩ := metric_text hm ht
  refine ⟨ref, hreduce, fun r => parens_of_some (stops_isBlank_of_metric (hread r)) ?_⟩
  have hbraces : optionalBraces (')' :: r) = some (none, ')' :: r) :=
    optionalBraces_eq_none (by simp)
  have hgroupBy : groupBy (')' :: r) = none :=
    groupBy_eq_none (head?_trimStart_ne (by decide) (by decide) r)
  unfold selection
  rw [bind_of_some _ (hread r), bind_of_some _ hbraces, bind_of_some _ (attempt_of_none hgroupBy),
    pure_apply]

/-- A call of a metric is read where its identifier is not captured. -/
theorem call_metric {name metric : String} {m : Metric} (hname : IsCallName name.toList)
    (hm : m.IsNamed) (ht : m.print = .ok metric) {s : List Char}
    (hcaptured : ¬ IsCaptured metric.toList s) :
    ∃ ref : MetricRef, ref.reduce = .ok m ∧
      call expression (name.toList ++ '(' :: (metric.toList ++ ')' :: s)) =
        some (.aggregate name none ⟨ref, none, none⟩, s) := by
  obtain ⟨ref, href, hselection⟩ := selection_metric hm ht
  refine ⟨ref, href, ?_⟩
  have hplain : plainCall (name.toList ++ '(' :: (metric.toList ++ ')' :: s)) =
      some (.aggregate name none ⟨ref, none, none⟩, s) := by
    refine firstOf_of_some _ ?_
    rw [bind_of_some _ (functionName_append hname _), bind_of_some _ (hselection _), pure_apply]
  rw [call_apply, firstOf_of_none _ ((curriedCall_eq_none_iff hname).2 hcaptured)]
  exact firstOf_of_some _ hplain

theorem reduce_aggregate {ref : MetricRef} {m : Metric} (h : ref.reduce = .ok m) (name : String)
    (params : Option (List Param)) :
    (Call.aggregate name params ⟨ref, none, none⟩).reduce =
      .ok (.timeseries ⟨m, name, params.map fun ps => ps.map Param.toLiteral, none, none⟩) := by
  have hselection : (⟨ref, none, none⟩ : Selection).reduce = .ok (Timeseries.unaggregated m) := by
    rw [Selection.reduce_eq]
    dsimp only [optionally]
    rw [h]
    rfl
  rw [Call.reduce, bind_of_ok _ hselection]
  rfl

theorem plainCall_eq_some {s t : List Char} {c : Call} (h : plainCall s = some (c, t)) :
    ∃ name s', functionName s = some (name, s') ∧
      ((∃ inner, parens selection s' = some (inner, t) ∧ c = .aggregate name none inner) ∨
        ∃ args, arguments expression s' = some (args, t) ∧ c = .function name none args) := by
  rcases firstOf_cons_eq_some_iff.1 h with h | ⟨-, h⟩
  · obtain ⟨name, s', hname, h⟩ := bind_eq_some_iff.1 h
    obtain ⟨inner, t', hinner, h⟩ := bind_eq_some_iff.1 h
    cases h
    exact ⟨name, s', hname, .inl ⟨inner, hinner, rfl⟩⟩
  rcases firstOf_cons_eq_some_iff.1 h with h | ⟨-, h⟩
  · obtain ⟨name, s', hname, h⟩ := bind_eq_some_iff.1 h
    obtain ⟨args, t', hargs, h⟩ := bind_eq_some_iff.1 h
    cases h
    exact ⟨name, s', hname, .inr ⟨args, hargs, rfl⟩⟩
  · cases h

/-- A call with parameters leaves their mark, unless it is left without an aggregate. -/
theorem marks_curriedCall {s t : List Char} {c : Call} {q : Query}
    (h : curriedCall s = some (c, t)) (hq : c.reduce = .ok q) :
    ∃ name params s', curriedHead s = some ((name, params), s') ∧
      (q.toOperand.marks = [.metric] ∨
        ∃ rest, q.toOperand.marks = .call (some (params.map Param.toLiteral)) :: rest) := by
  obtain ⟨name, params, s', hhead, hc⟩ := curriedCall_eq_some h
  refine ⟨name, params, s', hhead, ?_⟩
  rcases hc with ⟨inner, -, rfl⟩ | ⟨args, -, rfl⟩
  · rcases Call.marks_aggregate hq with hmarks | hmarks
    · exact .inr ⟨_, hmarks⟩
    · exact .inl hmarks
  · obtain ⟨ys, -, hmarks | hmarks⟩ := Call.marks_curried hq
    · exact .inr ⟨_, hmarks⟩
    · exact .inl hmarks

end Grammar

namespace Operand

theorem marks_series {t : Timeseries} (h : t.hasAggregate = true) :
    (Operand.timeseries t).marks = [.call t.parameters, .metric] := by
  rw [marks_timeseries, Timeseries.marks, if_pos h]

theorem text_series {t : Timeseries} (h : t.IsShaped) (hagg : t.hasAggregate = true)
    (r : List Char) :
    (Operand.timeseries t).text.toList ++ r = t.aggregate.toList ++
      (t.curry.toList ++ '(' :: (t.metric.text.toList ++ ')' :: (t.suffix.toList ++ r))) := by
  rw [text, print, Timeseries.print_parts h hagg]
  simp [Except.toOption]

/-- Without parameters, the metric stands in the first parentheses. -/
theorem text_uncurried {t : Timeseries} (h : t.IsShaped) (hagg : t.hasAggregate = true)
    (hnone : t.parameters = none) (r : List Char) :
    (Operand.timeseries t).text.toList ++ r = t.aggregate.toList ++
      '(' :: (t.metric.text.toList ++ ')' :: (t.suffix.toList ++ r)) := by
  rw [text_series h hagg, Timeseries.curry_of_none hnone, String.toList_empty, List.nil_append]

/-- A series without parameters is read back, unless its identifier is captured. -/
theorem returns_uncurried {t : Timeseries} (h : (Operand.timeseries t).IsWritable)
    (hnone : t.parameters = none) : (Operand.timeseries t).Returns := by
  obtain ⟨hshaped, hagg⟩ := isWritable_timeseries.1 h
  intro r hr hclear
  have hcaptured := (rereads_timeseries.1 hclear).2 hnone
  rw [ReadsAs, text_uncurried hshaped hagg hnone]
  obtain ⟨ref, href, hcall⟩ :=
    call_metric hshaped.aggregate hshaped.metric hshaped.metric_eq hcaptured
  rw [reread, Timeseries.reread, hnone]
  exact unary_call hshaped.aggregate hcall hshaped.selection hshaped.suffix_eq hr
    (reduce_aggregate href t.aggregate none) rfl rfl

/-- A series without parameters goes astray only if its identifier is captured. -/
theorem strays_uncurried {t : Timeseries} (h : (Operand.timeseries t).IsWritable)
    (hnone : t.parameters = none) : (Operand.timeseries t).Strays := by
  obtain ⟨hshaped, hagg⟩ := isWritable_timeseries.1 h
  intro r _ hcaptured
  rw [rereads_iff, rereads_timeseries] at hcaptured
  rw [marks_series hagg, text_uncurried hshaped hagg hnone, hnone]
  have hne : curriedCall (t.aggregate.toList ++
      '(' :: (t.metric.text.toList ++ ')' :: (t.suffix.toList ++ r))) ≠ none := fun hno =>
    hcaptured ⟨by simp [IsRegular, AreFinite, hnone],
      fun _ => (curriedCall_eq_none_iff hshaped.aggregate).1 hno⟩
  obtain ⟨⟨found, u⟩, hfound⟩ := Option.ne_none_iff_exists'.1 hne
  refine astray_call hshaped.aggregate (fun c v q hc hq => ?_) (Departs.head (by simp) _ _)
  rw [call_apply, firstOf_of_some _ hfound] at hc
  cases hc
  obtain ⟨_, params, _, -, hq | ⟨rest, hq⟩⟩ := marks_curriedCall hfound hq
  · rw [hq]
    exact Departs.head (by simp) _ _
  · rw [hq]
    exact Departs.head (by simp) _ _

/-- Where a series with parameters stands, a call of its metric is read, with what the parameters are
read back as. -/
theorem call_aggregate {t : Timeseries} (h : (Operand.timeseries t).IsWritable) {ps : List Literal}
    (hsome : t.parameters = some ps) :
    ∀ r, ∃ c u, (Operand.timeseries t).text.toList ++ r = t.aggregate.toList ++ '(' :: u ∧
      call expression (t.aggregate.toList ++ '(' :: u) = some (c, t.suffix.toList ++ r) ∧
      c.reduce = .ok (.timeseries
        ⟨t.metric, t.aggregate, some (ps.map Literal.reread), none, none⟩) := by
  obtain ⟨hshaped, hagg⟩ := isWritable_timeseries.1 h
  obtain ⟨ref, href, hselection⟩ := selection_metric hshaped.metric hshaped.metric_eq
  have hcurry := hshaped.curry_eq
  rw [hsome] at hcurry
  obtain ⟨params, hparams, hhead⟩ := curriedHead_text hshaped.aggregate hcurry
  intro r
  have hcurried : curriedCall (t.aggregate.toList ++
      (t.curry.toList ++ '(' :: (t.metric.text.toList ++ ')' :: (t.suffix.toList ++ r)))) =
      some (.aggregate t.aggregate (some params) ⟨ref, none, none⟩, t.suffix.toList ++ r) := by
    refine firstOf_of_some _ ((bind_of_some _ (hhead _)).trans ?_)
    exact bind_of_some _ (hselection _)
  obtain ⟨u, hu⟩ := curry_paren hcurry (t.metric.text.toList ++ ')' :: (t.suffix.toList ++ r))
  rw [hu] at hcurried
  refine ⟨.aggregate t.aggregate (some params) ⟨ref, none, none⟩, u, ?_, ?_, ?_⟩
  · rw [text_series hshaped hagg, hu]
  · rw [call_apply]
    exact firstOf_of_some _ hcurried
  · rw [reduce_aggregate href, Option.map_some, hparams]

/-- A series with parameters is read back. -/
theorem returns_aggregate {t : Timeseries} (h : (Operand.timeseries t).IsWritable)
    {ps : List Literal} (hsome : t.parameters = some ps) : (Operand.timeseries t).Returns := by
  obtain ⟨hshaped, -⟩ := isWritable_timeseries.1 h
  intro r hr _
  obtain ⟨c, u, htext, hcall, hreduce⟩ := call_aggregate h hsome r
  have hreturn :=
    unary_call hshaped.aggregate hcall hshaped.selection hshaped.suffix_eq hr hreduce rfl rfl
  rw [ReadsAs, htext, reread, Timeseries.reread, rereadParameters, hsome]
  exact hreturn

/-- A normal series with parameters goes astray only if one of them is infinite. -/
theorem strays_aggregate {t : Timeseries} (h : (Operand.timeseries t).IsWritable)
    (hnormal : t.IsNormal) {ps : List Literal} (hsome : t.parameters = some ps) :
    (Operand.timeseries t).Strays := by
  obtain ⟨hshaped, hagg⟩ := isWritable_timeseries.1 h
  intro r _ hinfinite
  have hne : t.parameters ≠ rereadParameters t.parameters := by
    intro e
    refine hinfinite (rereads_iff.2 (rereads_timeseries.2 ⟨?_, ?_⟩))
    · exact hnormal.parameters.plain_iff.1 (rereadParameters_eq_self.1 e.symm)
    · exact fun hnone => absurd (hsome.symm.trans hnone) (Option.some_ne_none _)
  obtain ⟨c, u, htext, hcall, hreduce⟩ := call_aggregate h hsome r
  rw [marks_series hagg, htext]
  refine astray_call hshaped.aggregate (fun c' v q hc hq => ?_) (Departs.head (by simp) _ _)
  rw [hcall] at hc
  cases hc
  rw [hreduce] at hq
  cases hq
  have hmarks := marks_series
    (t := ⟨t.metric, t.aggregate, some (ps.map Literal.reread), none, none⟩) hagg
  show Departs _ (Operand.timeseries _).marks
  rw [hmarks]
  have hreread : rereadParameters t.parameters = some (ps.map Literal.reread) := by
    rw [hsome]
    rfl
  exact Departs.head (fun e => hne ((Mark.call.inj e).trans hreread.symm)) _ _

/-- **A series is read back**, unless its identifier is captured. -/
theorem returns_timeseries {t : Timeseries} (h : (Operand.timeseries t).IsWritable) :
    (Operand.timeseries t).Returns := by
  cases hparameters : t.parameters with
  | none => exact returns_uncurried h hparameters
  | some ps => exact returns_aggregate h hparameters

/-- What is read departs from a normal series where something in its text is mistaken. -/
theorem strays_timeseries {t : Timeseries} (h : (Operand.timeseries t).IsWritable)
    (hnormal : t.IsNormal) : (Operand.timeseries t).Strays := by
  cases hparameters : t.parameters with
  | none => exact strays_uncurried h hparameters
  | some ps => exact strays_aggregate h hnormal hparameters

end Operand

end MetricQuery
