import MetricQuery.Proofs.QueryText

/-!
# Names that come back

The check of a series asks of its aggregate that it is not empty, of a public name that it is not
blank, and of a resource identifier that it has its four segments.  All of them are written as they
are, whatever the grammar takes them for.

* `Metric.written?`         : the name by which a metric is written;
* `Timeseries.names_return` : when the names of a series come back.
-/

set_option autoImplicit false

namespace MetricQuery

open Grammar Scanner Surface Outcome

/-! ## Metrics -/

namespace Metric

/-- The metric by the only name that is written of it: its resource identifier, or else its public
name. -/
def written? (m : Metric) : Option Metric :=
  match m.mri, m.publicName with
  | some mri, _ => some (.ofMri mri)
  | none, some name => some (.ofPublicName name)
  | none, none => none

variable {m written : Metric}

theorem print_of_nameless (h : m.written? = none) : m.print = .error .namelessMetric := by
  unfold written? at h
  unfold print
  cases hmri : m.mri with
  | some mri => simp [hmri] at h
  | none =>
    cases hname : m.publicName with
    | some name => simp [hmri, hname] at h
    | none => rfl

/-- A metric that has a name is written as it is by this name alone. -/
theorem print_written (h : m.written? = some written) :
    m.print = written.print ∧ ∃ text, written.print = .ok text := by
  unfold written? at h
  unfold print
  cases hmri : m.mri with
  | some mri =>
    simp only [hmri, Option.some.injEq] at h
    subst h
    exact ⟨rfl, _, rfl⟩
  | none =>
    cases hname : m.publicName with
    | some name =>
      simp only [hmri, hname, Option.some.injEq] at h
      subst h
      exact ⟨rfl, _, rfl⟩
    | none => simp [hmri, hname] at h

theorem IsNamed.written?_eq (h : m.IsNamed) : m.written? = some m := by
  cases h <;> rfl

end Metric

/-! ## Series without a selection -/

namespace Timeseries

/-- Nothing stands beside the names of the series: no parameter, no filter and no grouping. -/
structure IsBare (t : Timeseries) : Prop where
  parameters : t.parameters.getD [] = []
  filters : t.filters.getD [] = []
  groupby : t.groupby.getD [] = []

/-- What a series without a selection is read back as. -/
def bare (t : Timeseries) (written : Metric) : Timeseries :=
  ⟨written, t.aggregate, t.parameters, none, none⟩

variable {t : Timeseries} {written : Metric}

theorem IsBare.isNormal (h : t.IsBare) (haggregate : IsCallName t.aggregate.toList)
    (hnamed : written.IsNamed) : (t.bare written).IsNormal := by
  refine ⟨hnamed, haggregate, ?_, isSelection_none⟩
  show AreUnsigned t.parameters
  simp [AreUnsigned, h.parameters]

theorem IsBare.print_eq (h : t.IsBare) (hname : t.metric.written? = some written) :
    t.print = (t.bare written).print := by
  have hselection : selectionText t.filters t.groupby = selectionText none none := by
    rw [selectionText, h.filters, h.groupby]
    rfl
  have hhead : t.headText = (t.bare written).headText := by
    rw [headText, (Metric.print_written hname).1]
    rfl
  rw [print, hselection, hhead]
  rfl

theorem IsBare.exists_print (h : t.IsBare) (hname : t.metric.written? = some written) :
    ∃ text, (t.bare written).print = .ok text := by
  refine Timeseries.exists_print ⟨(Metric.print_written hname).2, ?_, isSelection_none.exists_text⟩
  show areParameters t.parameters = true
  rw [areParameters, h.parameters]
  rfl

theorem IsBare.isRegular (h : t.IsBare) : (Operand.timeseries (t.bare written)).IsRegular := by
  show AreFinite t.parameters
  simp [AreFinite, h.parameters]

/-- Nothing stands behind the identifier of the series but its parenthesis. -/
theorem IsBare.rereads_iff (h : t.IsBare) :
    (Query.timeseries (t.bare written)).Rereads ↔
      (t.parameters = none → ¬ IsCaptured written.text.toList []) := by
  rw [Query.Rereads, Query.toOperand, Operand.rereads_iff, Operand.rereads_timeseries]
  exact and_iff_right h.isRegular

section

variable {text : String} (hbare : t.IsBare) (hagg : t.hasAggregate = true)
  (ht : (t.bare written).print = .ok text) (haggregate : IsCallName t.aggregate.toList)
  (hnamed : written.IsNamed)

include hbare hagg haggregate hnamed

theorem isWritable_bare : (Query.timeseries (t.bare written)).toOperand.IsWritable :=
  Operand.isWritable_timeseries.2 ⟨(hbare.isNormal haggregate hnamed).isShaped, hagg⟩

include ht

/-- A series without a selection whose names are those of the grammar is read back, unless its
identifier is captured. -/
theorem parse_bare_iff :
    Query.parse text = .ok (.timeseries (t.bare written)) ↔
      (t.parameters = none → ¬ IsCaptured written.text.toList []) := by
  obtain ⟨text', ht', hiff⟩ := Query.parse_print_iff (isWritable_bare hbare hagg haggregate hnamed)
    (Operand.isNormal_timeseries.2 (hbare.isNormal haggregate hnamed))
  rw [show (Query.timeseries (t.bare written)).print = .ok text from ht] at ht'
  cases ht'
  rw [← hbare.rereads_iff, ← hiff]
  rfl

/-- An identifier that closes and opens no parenthesis is not captured. -/
theorem parse_bare (hcall : ∀ mri, written.mri = some mri → ¬ [')', '('] <:+: mri.toList) :
    Query.parse text = .ok (.timeseries (t.bare written)) :=
  (parse_bare_iff hbare hagg ht haggregate hnamed).2 fun _ =>
    not_isCaptured_of_noCall
      (hnamed.noCall (hbare.isNormal haggregate hnamed).isShaped.metric_eq hcall)

end

theorem isNormal_of_parse {text : String} (h : Query.parse text = .ok (.timeseries t)) :
    t.IsNormal :=
  Operand.isNormal_timeseries.1 (Query.isNormal_of_parse h)

/-- **When the names of a series come back.**  A valid series without a selection is refused for
want of a name of its metric only.  It is read back as the series with the name that was written
exactly if its aggregate can be called, the name is one of the grammar, and, unless parameters stand
in front of it, it is not captured.  An identifier that closes and opens no parenthesis is not: then
what is read is a series with the aggregate and the name exactly if these are those of the grammar. -/
theorem names_return (hvalid : t.validate = .ok ()) (hbare : t.IsBare) :
    (t.metric.written? = none → t.print = .error .namelessMetric) ∧
    ∀ written, t.metric.written? = some written →
      ∃ text, t.print = .ok text ∧
        (Query.parse text = .ok (.timeseries (t.bare written)) ↔
          IsCallName t.aggregate.toList ∧ written.IsNamed ∧
            (t.parameters = none → ¬ IsCaptured written.text.toList [])) ∧
        ((∀ mri, written.mri = some mri → ¬ [')', '('] <:+: mri.toList) →
          ((∃ t', Query.parse text = .ok (.timeseries t') ∧ t'.aggregate = t.aggregate ∧
              t'.metric.written? = some written) ↔
            IsCallName t.aggregate.toList ∧ written.IsNamed)) := by
  obtain ⟨-, hagg, -, -, -⟩ := validate_eq_ok.1 hvalid
  refine ⟨fun hnone => ?_, fun written hname => ?_⟩
  · rw [print, headText, Metric.print_of_nameless hnone]
    rfl
  obtain ⟨text, ht⟩ := hbare.exists_print hname
  refine ⟨text, (hbare.print_eq hname).trans ht, ⟨fun hparse => ?_, ?_⟩, fun hcall => ⟨?_, ?_⟩⟩
  · have hnormal := isNormal_of_parse hparse
    exact ⟨hnormal.aggregate, hnormal.metric,
      (parse_bare_iff hbare hagg ht hnormal.aggregate hnormal.metric).1 hparse⟩
  · rintro ⟨haggregate, hnamed, hcaptured⟩
    exact (parse_bare_iff hbare hagg ht haggregate hnamed).2 hcaptured
  · rintro ⟨t', hparse, haggregate, hmetric⟩
    have hnormal := isNormal_of_parse hparse
    rw [hnormal.metric.written?_eq] at hmetric
    cases hmetric
    exact ⟨haggregate ▸ hnormal.aggregate, hnormal.metric⟩
  · rintro ⟨haggregate, hnamed⟩
    exact ⟨_, parse_bare hbare hagg ht haggregate hnamed hcall, rfl, hnamed.written?_eq⟩

/-- A capital letter in a public name. -/
theorem names_return_capital :
    let t : Timeseries := .new (.ofPublicName "Foo") "sum"
    t.validate = .ok () ∧ t.IsBare ∧ t.print = .ok "sum(Foo)" ∧
      ¬ ∃ t', Query.parse "sum(Foo)" = .ok (.timeseries t') ∧ t'.aggregate = t.aggregate ∧
        t'.metric.written? = some (.ofPublicName "Foo") := by
  intro t
  have hvalid : t.validate = .ok () := by decide +kernel
  have hbare : t.IsBare := ⟨rfl, rfl, rfl⟩
  obtain ⟨text, hprint, -, hiff⟩ := (names_return hvalid hbare).2 (.ofPublicName "Foo") rfl
  have htext : t.print = .ok "sum(Foo)" := rfl
  rw [htext] at hprint
  cases hprint
  refine ⟨hvalid, hbare, htext, fun h => ?_⟩
  obtain ⟨-, hnamed⟩ := (hiff fun mri hmri => by cases hmri).1 h
  have hchar : Grammar.isPublicChar 'F' = true ∨ 'F' = '.' := by
    cases hnamed with
    | publicName hname => exact hname.chars 'F' (by decide)
  exact absurd hchar (by decide)

/-- A public name that looks like a resource identifier is read as one. -/
example : (Query.parse "sum(d:a/b@c)").toOption.map (fun q => q.series.map metric) =
    some [.ofMri "d:a/b@c"] := by decide +kernel

end Timeseries

end MetricQuery
