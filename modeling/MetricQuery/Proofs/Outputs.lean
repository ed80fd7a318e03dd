import MetricQuery.Clause
import MetricQuery.Payload
import MetricQuery.Proofs.CollapseMeaning
import MetricQuery.Proofs.Written

/-!
# The outputs of an envelope agree

An envelope has four outputs: two payloads and two lists of clauses, each of them with the filters
rewritten and with the filters as written.

* `Envelope.exists_parts`       : nothing is missing from an envelope that passes its check;
* `Condition.exists_print_isIn` : values that can be written one by one can be written as a list;
* `Query.exists_print_collapse` : a query that can be written can be written with its filters
  rewritten;
* `Envelope.outputs_agree`      : the outputs agree on what is refused, and payloads on the context.
-/

set_option autoImplicit false

namespace MetricQuery

open Outcome

/-! ## What the printer refuses -/

/-- No part of an envelope is missed. -/
def MissesNothing {α : Type} (x : Except Refusal α) : Prop := ∀ part, x ≠ .error (.missing part)

section

variable {α β : Type}

theorem missesNothing_ok (a : α) : MissesNothing (.ok a : Except Refusal α) :=
  fun _ h => nomatch h

theorem missesNothing_error {cause : Refusal} (h : ∀ part, cause ≠ .missing part) :
    MissesNothing (.error cause : Except Refusal α) := by
  intro part e
  exact h part (Except.error.inj e)

theorem MissesNothing.bind {x : Except Refusal α} {f : α → Except Refusal β}
    (hx : MissesNothing x) (hf : ∀ a, MissesNothing (f a)) : MissesNothing (x >>= f) := by
  cases x with
  | error cause =>
    intro part e
    have hcause : cause = .missing part := Except.error.inj e
    exact hx part (by rw [hcause])
  | ok a => exact hf a

theorem missesNothing_mapM {f : α → Except Refusal β} {as : List α}
    (h : ∀ a ∈ as, MissesNothing (f a)) : MissesNothing (as.mapM f) := by
  induction as with
  | nil => exact missesNothing_ok []
  | cons a as ih =>
    rw [List.mapM_cons]
    refine (h a (by simp)).bind fun b => ?_
    refine (ih fun x hx => h x (by simp [hx])).bind fun bs => ?_
    exact missesNothing_ok (b :: bs)

end

theorem Literal.missesNothing_parameterText (p : Literal) : MissesNothing p.parameterText := by
  cases p <;> first | exact missesNothing_ok _ | exact missesNothing_error (by simp)

theorem Literal.missesNothing_curryText (parameters : Option (List Literal)) :
    MissesNothing (curryText parameters) := by
  cases parameters with
  | none => exact missesNothing_ok ""
  | some ps =>
    unfold curryText
    dsimp only
    rw [parameterTexts_eq]
    refine (missesNothing_mapM fun p _ => p.missesNothing_parameterText).bind fun texts => ?_
    exact missesNothing_ok _

theorem Literal.missesNothing_tagString (value : Literal) : MissesNothing value.tagString := by
  cases value <;> first | exact missesNothing_ok _ | exact missesNothing_error (by simp)

theorem Literal.missesNothing_tagStrings (items : List Literal) :
    MissesNothing (tagStrings items) := by
  induction items with
  | nil => exact missesNothing_ok []
  | cons item rest ih =>
    rw [tagStrings]
    exact item.missesNothing_tagString.bind fun _ => ih.bind fun _ => missesNothing_ok _

theorem Literal.missesNothing_exactValue (value : Literal) : MissesNothing value.exactValue := by
  refine value.missesNothing_tagString.bind fun s => ?_
  split
  · exact missesNothing_error (by simp)
  · exact missesNothing_ok _

theorem Literal.missesNothing_wildcardValue (value : Literal) :
    MissesNothing value.wildcardValue := by
  refine value.missesNothing_tagString.bind fun s => ?_
  split
  · exact missesNothing_ok _
  · exact missesNothing_error (by simp)

theorem Literal.missesNothing_tagList (value : Literal) : MissesNothing value.tagList := by
  have hitems : ∀ items, MissesNothing (tagListOf items) := fun items =>
    (missesNothing_tagStrings items).bind fun _ => missesNothing_ok _
  cases value with
  | array items => exact hitems items
  | tuple items => exact hitems items
  | _ => exact missesNothing_error (by simp)

theorem Comparison.missesNothing_valueText (op : Comparison) (value : Literal) :
    MissesNothing (op.valueText value) := by
  have hexact := value.missesNothing_exactValue
  have hpattern := value.missesNothing_wildcardValue
  have hlist := value.missesNothing_tagList
  cases op with
  | eq => exact hexact.bind fun _ => missesNothing_ok _
  | neq => exact hexact.bind fun _ => missesNothing_ok _
  | like => exact hpattern.bind fun _ => missesNothing_ok _
  | notLike => exact hpattern.bind fun _ => missesNothing_ok _
  | isIn => exact hlist.bind fun _ => missesNothing_ok _
  | notIn => exact hlist.bind fun _ => missesNothing_ok _
  | _ => exact missesNothing_error (by simp)

theorem Column.missesNothing_print (role : NameRole) (c : Column) :
    MissesNothing (c.print role) := by
  unfold print
  split
  · exact missesNothing_ok _
  · exact missesNothing_error (by simp)

theorem Condition.missesNothing_print (c : Condition) : MissesNothing c.print := by
  unfold print
  split
  · split
    · refine (Column.missesNothing_print _ _).bind fun key => ?_
      exact (Comparison.missesNothing_valueText _ _).bind fun found => missesNothing_ok _
    · exact missesNothing_error (by simp)
  · exact missesNothing_error (by simp)

theorem Filter.missesNothing_print (f : Filter) : MissesNothing f.print := by
  induction f using Filter.induction with
  | condition c =>
    rw [print]
    exact c.missesNothing_print
  | group op members ih =>
    rw [print, printAll_eq]
    exact (missesNothing_mapM ih).bind fun texts => missesNothing_ok _

theorem missesNothing_selectionText (filters : Option (List Filter))
    (groupby : Option (List Column)) : MissesNothing (selectionText filters groupby) := by
  have hbraces : MissesNothing (bracesText (filters.getD [])) := by
    unfold bracesText
    split
    · exact missesNothing_ok ""
    · rw [Filter.printAll_eq]
      refine (missesNothing_mapM fun f _ => f.missesNothing_print).bind fun texts => ?_
      exact missesNothing_ok _
  have hgrouping : MissesNothing (groupByText (groupby.getD [])) := by
    unfold groupByText
    split
    · exact missesNothing_ok ""
    · rw [Column.printAll_eq]
      refine (missesNothing_mapM fun c _ => c.missesNothing_print .groupBy).bind fun names => ?_
      exact missesNothing_ok _
  exact hbraces.bind fun _ => hgrouping.bind fun _ => missesNothing_ok _

theorem Timeseries.missesNothing_print (t : Timeseries) : MissesNothing t.print := by
  have hmetric : MissesNothing t.metric.print := by
    unfold Metric.print
    split
    · exact missesNothing_ok _
    · exact missesNothing_ok _
    · exact missesNothing_error (by simp)
  have hhead : MissesNothing t.headText := by
    refine hmetric.bind fun metric => ?_
    split
    · exact (Literal.missesNothing_curryText _).bind fun _ => missesNothing_ok _
    · exact missesNothing_ok _
  exact hhead.bind fun _ => (missesNothing_selectionText _ _).bind fun _ => missesNothing_ok _

theorem Formula.missesNothing_layout (function : String) (parameters : Option (List Literal))
    (operands : List String) (selection : String) :
    MissesNothing (layout function parameters operands selection) := by
  unfold layout
  split
  · exact missesNothing_ok _
  · refine (Literal.missesNothing_curryText _).bind fun curry => ?_
    dsimp only
    split
    · split
      · exact missesNothing_ok _
      · exact missesNothing_ok _
    · exact missesNothing_ok _

theorem Operand.missesNothing_print (o : Operand) : MissesNothing o.print := by
  induction o using Operand.induction with
  | formula f ih =>
    rw [print, Formula.print_eq]
    refine (missesNothing_mapM ih).bind fun texts => ?_
    exact (missesNothing_selectionText _ _).bind fun _ => Formula.missesNothing_layout _ _ _ _
  | timeseries t =>
    rw [print]
    exact t.missesNothing_print
  | int n =>
    rw [print]
    exact missesNothing_ok _
  | float x =>
    rw [print]
    exact missesNothing_ok _
  | string s =>
    rw [print]
    exact missesNothing_ok _

/-! ## What is rewritten can be written -/

/-- A text that a tag can be equal to can be one of a list. -/
theorem Literal.tagString_of_exactValue {value : Literal} {text : String}
    (h : value.exactValue = .ok text) : ∃ s, value.tagString = .ok s := by
  obtain ⟨s, hs, -⟩ := bind_eq_ok.1 h
  exact ⟨s, hs⟩

/-- A text of a list. -/
def Literal.listedText (value : Literal) : Except Refusal String := do
  let s ← value.tagString
  pure (Text.quote s)

theorem Literal.tagStrings_eq (items : List Literal) : tagStrings items = items.mapM listedText :=
  eq_mapM (by rw [tagStrings]) (fun _ _ => by rw [tagStrings]; simp [listedText]) items

/-- The parts of the text of an equality with a literal. -/
theorem Condition.print_eq_ok {lhs : Expr} {value : Literal} {text : String}
    (h : (⟨lhs, .eq, some (.literal value)⟩ : Condition).print = .ok text) :
    ∃ column key s, lhs = .column column ∧ column.print .tag = .ok key ∧
      value.tagString = .ok s := by
  cases lhs with
  | column column =>
    obtain ⟨key, hkey, h⟩ := bind_eq_ok.1 h
    obtain ⟨found, hfound, -⟩ := bind_eq_ok.1 h
    obtain ⟨exact, hexact, -⟩ := bind_eq_ok.1 hfound
    obtain ⟨s, hs⟩ := Literal.tagString_of_exactValue hexact
    exact ⟨column, key, s, rfl, hkey, hs⟩
  | call function initializers parameters label => cases h
  | literal v => cases h

/-- Texts can be written as a list. -/
theorem Condition.exists_print_isIn {column : Column} {key : String} {values : List Literal}
    (hkey : column.print .tag = .ok key) (h : ∀ v ∈ values, ∃ s, v.tagString = .ok s) :
    ∃ text, (⟨.column column, .isIn, some (.literal (.array values))⟩ : Condition).print =
      .ok text := by
  have hquoted : ∀ v ∈ values, ∃ quoted, v.listedText = .ok quoted := by
    intro v hv
    obtain ⟨s, hs⟩ := h v hv
    exact ⟨Text.quote s, bind_of_ok _ hs⟩
  obtain ⟨texts, htexts⟩ := exists_mapM_eq_ok hquoted
  rw [← Literal.tagStrings_eq] at htexts
  have hlist : (Literal.array values).tagList = .ok ("[" ++ Text.join ", " texts ++ "]") :=
    bind_of_ok _ htexts
  exact ⟨_, bind_eq_ok.2 ⟨key, hkey, bind_eq_ok.2 ⟨_, bind_of_ok _ hlist, rfl⟩⟩⟩

namespace Filter

/-- The values of equalities that can be written are texts. -/
theorem tagString_of_valuesOf? {lhs : Expr} {fs : List Filter} {values : List Literal}
    {texts : List String} (h : valuesOf? lhs fs = some values)
    (ht : fs.mapM print = .ok texts) : ∀ v ∈ values, ∃ s, v.tagString = .ok s := by
  induction fs generalizing values texts with
  | nil =>
    cases h
    simp
  | cons f fs ih =>
    rw [valuesOf?] at h
    obtain ⟨⟨side, value⟩, hf, h⟩ := Option.bind_eq_some_iff.1 h
    dsimp only at h
    split at h
    · obtain ⟨values', hvalues, h⟩ := Option.bind_eq_some_iff.1 h
      cases h
      rw [List.mapM_cons] at ht
      obtain ⟨text, htext, ht⟩ := bind_eq_ok.1 ht
      obtain ⟨texts', htexts, -⟩ := bind_eq_ok.1 ht
      rw [equality?_eq_some hf, print] at htext
      obtain ⟨_, _, s, -, -, hs⟩ := Condition.print_eq_ok htext
      intro v hv
      rcases List.mem_cons.1 hv with rfl | hv
      · exact ⟨s, hs⟩
      · exact ih hvalues htexts v hv
    · cases h

/-- **A group that can be written collapses to a condition that can be written.** -/
theorem exists_print_of_collapse? {f g : Filter} {text : String} (h : f.collapse? = some g)
    (ht : f.print = .ok text) : ∃ text', g.print = .ok text' := by
  unfold collapse? at h
  split at h
  · rename_i first rest
    obtain ⟨⟨lhs, value⟩, hfirst, h⟩ := Option.bind_eq_some_iff.1 h
    obtain ⟨values, hvalues, h⟩ := Option.bind_eq_some_iff.1 h
    cases h
    rw [print, printAll_eq, List.mapM_cons] at ht
    obtain ⟨texts, htexts, -⟩ := bind_eq_ok.1 ht
    obtain ⟨text, htext, htexts⟩ := bind_eq_ok.1 htexts
    obtain ⟨others, hothers, -⟩ := bind_eq_ok.1 htexts
    rw [equality?_eq_some hfirst, print] at htext
    obtain ⟨column, key, s, rfl, hkey, hs⟩ := Condition.print_eq_ok htext
    rw [print]
    refine Condition.exists_print_isIn hkey fun v hv => ?_
    rcases List.mem_cons.1 hv with rfl | hv
    · exact ⟨s, hs⟩
    · exact tagString_of_valuesOf? hvalues hothers v hv
  · cases h

theorem exists_print_collapse {f : Filter} {text : String} (ht : f.print = .ok text) :
    ∃ text', f.collapse.print = .ok text' := by
  unfold collapse
  cases h : f.collapse? with
  | none => exact ⟨text, ht⟩
  | some g => exact exists_print_of_collapse? h ht

end Filter

theorem exists_bracesText_collapse {fs : List Filter} {braces : String}
    (h : bracesText fs = .ok braces) :
    ∃ braces', bracesText (fs.map Filter.collapse) = .ok braces' := by
  cases fs with
  | nil => exact ⟨"", rfl⟩
  | cons f fs =>
    obtain ⟨texts, htexts, -⟩ := bind_eq_ok.1 h
    rw [Filter.printAll_eq] at htexts
    have hall : ∀ g ∈ (f :: fs).map Filter.collapse, ∃ text, g.print = .ok text := by
      rw [List.forall_mem_map]
      intro g hg
      obtain ⟨text, htext⟩ := exists_ok_of_mem htexts hg
      exact Filter.exists_print_collapse htext
    obtain ⟨texts', htexts'⟩ := exists_mapM_eq_ok hall
    rw [← Filter.printAll_eq] at htexts'
    exact ⟨_, bind_of_ok _ htexts'⟩

/-- Filters that can be written are rewritten to filters that can be written. -/
theorem exists_selectionText_collapse {filters : Option (List Filter)}
    {groupby : Option (List Column)} {text : String} (ht : selectionText filters groupby = .ok text) :
    ∃ text', selectionText (filters.map (List.map Filter.collapse)) groupby = .ok text' := by
  obtain ⟨braces, hbraces, ht⟩ := bind_eq_ok.1 ht
  obtain ⟨grouping, hgrouping, -⟩ := bind_eq_ok.1 ht
  have hmap : (filters.map (List.map Filter.collapse)).getD [] =
      (filters.getD []).map Filter.collapse := by
    cases filters <;> rfl
  obtain ⟨braces', hbraces'⟩ := exists_bracesText_collapse hbraces
  rw [← hmap] at hbraces'
  exact ⟨_, bind_eq_ok.2 ⟨braces', hbraces', bind_eq_ok.2 ⟨grouping, hgrouping, rfl⟩⟩⟩

namespace Query

/-- The filters at the root, with every group that collapses rewritten. -/
def collapsedFilters (q : Query) : Option (List Filter) :=
  (q.filters.bind Filter.collapseAll?).or q.filters

/-- They are the filters, each of them rewritten. -/
theorem collapsedFilters_eq (q : Query) :
    q.collapsedFilters = q.filters.map (List.map Filter.collapse) := by
  rw [collapsedFilters]
  cases q.filters with
  | none => rfl
  | some fs =>
    have hfs := Filter.collapseAll?_getD fs
    rw [Option.bind_some, Option.map_some, ← hfs]
    cases Filter.collapseAll? fs <;> rfl

/-- Nothing but the filters at the root is rewritten. -/
theorem collapse_eq (q : Query) : q.collapse = q.withFilters q.collapsedFilters := by
  have hfilters : q.collapse.filters = q.collapsedFilters := by
    unfold collapse collapsedFilters
    cases h : q.filters.bind Filter.collapseAll? with
    | none => rfl
    | some out => rw [filters_withFilters]; rfl
  rw [← hfilters, ← collapse_eq_withFilters]

/-- Rewriting leaves the metrics. -/
theorem series_collapse (q : Query) :
    q.collapse.series.map Timeseries.metric = q.series.map Timeseries.metric := by
  rw [collapse_eq]
  obtain t | ⟨function, parameters, operands, filters, groupby⟩ := q <;> rfl

theorem entity?_eq (q : Query) : q.entity? = (q.series.map Timeseries.metric).findSome?
    Metric.entity := by
  rw [List.findSome?_map]
  rfl

theorem entity?_collapse (q : Query) : q.collapse.entity? = q.entity? := by
  rw [entity?_eq, entity?_eq, series_collapse]

/-- The layout of a formula depends on what follows it only in the text that is written there. -/
theorem exists_layout_of_layout {function : String} {parameters : Option (List Literal)}
    {operands : List String} {selection text : String}
    (h : Formula.layout function parameters operands selection = .ok text) (selection' : String) :
    ∃ text', Formula.layout function parameters operands selection' = .ok text' := by
  unfold Formula.layout at h ⊢
  split at h
  · exact ⟨_, rfl⟩
  · obtain ⟨curry, hcurry, -⟩ := bind_eq_ok.1 h
    rw [bind_of_ok _ hcurry]
    dsimp only
    split
    · split
      · exact ⟨_, rfl⟩
      · exact ⟨_, rfl⟩
    · exact ⟨_, rfl⟩

/-- **A query that can be written can be written with its filters rewritten.** -/
theorem exists_print_collapse {q : Query} {text : String} (h : q.print = .ok text) :
    ∃ text', q.collapse.print = .ok text' := by
  rw [collapse_eq, collapsedFilters_eq]
  cases q with
  | timeseries t =>
    have ht : t.print = .ok text := h
    obtain ⟨head, hhead, ht⟩ := bind_eq_ok.1 ht
    obtain ⟨selection, hselection, -⟩ := bind_eq_ok.1 ht
    obtain ⟨selection', hselection'⟩ := exists_selectionText_collapse hselection
    have hprint : Timeseries.print { t with filters := t.filters.map (List.map Filter.collapse) } =
        .ok (head ++ selection') :=
      bind_eq_ok.2 ⟨head, hhead, bind_eq_ok.2 ⟨selection', hselection', rfl⟩⟩
    exact ⟨_, hprint⟩
  | formula f =>
    have hf : f.print = .ok text := h
    rw [Formula.print_eq] at hf
    obtain ⟨texts, htexts, hf⟩ := bind_eq_ok.1 hf
    obtain ⟨selection, hselection, hf⟩ := bind_eq_ok.1 hf
    obtain ⟨selection', hselection'⟩ := exists_selectionText_collapse hselection
    obtain ⟨text', htext'⟩ := exists_layout_of_layout hf selection'
    have hprint : Formula.print { f with filters := f.filters.map (List.map Filter.collapse) } =
        .ok text' := by
      rw [Formula.print_eq]
      exact bind_eq_ok.2 ⟨texts, htexts, bind_eq_ok.2 ⟨selection', hselection', htext'⟩⟩
    exact ⟨text', hprint⟩

end Query

/-! ## Envelopes -/

theorem MissesNothing.ofRefusal {α : Type} {x : Except Refusal α} (h : MissesNothing x)
    (part : Part) : QueryError.ofRefusal x ≠ .error (.refused (.missing part)) := by
  cases x with
  | error cause =>
    intro e
    have hcause : cause = .missing part := QueryError.refused.inj (Except.error.inj e)
    exact h part (by rw [hcause])
  | ok a => exact fun e => nomatch e

theorem QueryError.ofRefusal_eq_ok {α : Type} {x : Except Refusal α} {a : α} :
    ofRefusal x = .ok a ↔ x = .ok a := by
  cases x <;> simp [ofRefusal]

theorem Part.require_eq_ok {α : Type} {part : Part} {x : Option α} {a : α} :
    part.require x = .ok a ↔ x = some a := by
  cases x <;> simp [require]

namespace Envelope

/-- An envelope from which nothing is missing, with its parts. -/
structure HasParts (m : Envelope) (q : Query) (start ending : Instant) (rollup : Rollup)
    (scope : Scope) : Prop where
  query : m.query = some q
  start : m.start = some start
  ending : m.ending = some ending
  rollup : m.rollup = some rollup
  scope : m.scope = some scope

/-- **Nothing is missing from an envelope that passes its check**, and its query and the
granularity are in order. -/
theorem exists_parts {m : Envelope} (h : m.validate = .ok ()) :
    ∃ q start ending rollup scope granularity, m.HasParts q start ending rollup scope ∧
      q.validate = .ok () ∧ rollup.granularity = some granularity := by
  obtain ⟨q, hq, h⟩ := bind_eq_ok.1 h
  obtain ⟨_, hvalid, h⟩ := bind_eq_ok.1 h
  obtain ⟨start, hstart, h⟩ := bind_eq_ok.1 h
  obtain ⟨ending, hending, h⟩ := bind_eq_ok.1 h
  obtain ⟨_, hrollup, h⟩ := bind_eq_ok.1 h
  obtain ⟨scope, hscope, -⟩ := bind_eq_ok.1 h
  obtain ⟨rollup, hr, hrollup⟩ := bind_eq_ok.1 hrollup
  rw [QueryError.ofRefusal_eq_ok, Part.require_eq_ok] at hq hstart hending hr hscope
  rw [QueryError.ofCheck_eq_ok] at hvalid
  cases hg : rollup.granularity with
  | none =>
    rw [hg] at hrollup
    cases hrollup
  | some granularity =>
    exact ⟨q, start, ending, rollup, scope, granularity, ⟨hq, hstart, hending, hr, hscope⟩,
      hvalid, hg⟩

section

variable {m : Envelope} {q : Query} {start ending : Instant} {rollup : Rollup} {scope : Scope}

theorem HasParts.collapse (h : m.HasParts q start ending rollup scope) :
    m.collapse.HasParts q.collapse start ending rollup scope :=
  ⟨by rw [Envelope.collapse, h.query]; rfl, h.start, h.ending, h.rollup, h.scope⟩

/-- The payload depends on the text of the query alone. -/
theorem HasParts.payload_eq (h : m.HasParts q start ending rollup scope) :
    m.payload = (do
      let mql ← q.print
      pure ⟨mql, m.contextOf q start ending rollup scope⟩) := by
  rw [payload, h.query, h.start, h.ending, h.rollup, h.scope]
  rfl

/-- The query to the store, where only the form of the query and the metric may be wanting. -/
theorem HasParts.storeQuery_eq (h : m.HasParts q start ending rollup scope) :
    m.storeQuery =
      match q with
      | .formula _ => .error .formulaClauses
      | .timeseries t =>
        match t.metric.entity, t.metric.id with
        | none, _ => .error .noEntity
        | some _, none => .error .noMetricId
        | some entity, some metricId =>
          .ok { series := t, rollup, scope, start, ending, entity, metricId,
                limit := m.limit, offset := m.offset } := by
  rw [storeQuery, series, h.query, h.start, h.ending, h.rollup, h.scope]
  cases q with
  | formula f => rfl
  | timeseries t =>
    obtain ⟨⟨publicName, mri, id, entity⟩, aggregate, parameters, filters, groupby⟩ := t
    cases entity <;> cases id <;> rfl

theorem HasParts.missesNothing_payload (h : m.HasParts q start ending rollup scope) :
    MissesNothing m.payload := by
  rw [h.payload_eq]
  exact q.toOperand.missesNothing_print.bind fun mql => missesNothing_ok _

theorem HasParts.missesNothing_clauseText (h : m.HasParts q start ending rollup scope)
    (layout : Layout) : MissesNothing (m.clauseText layout) := by
  have hstore : MissesNothing m.storeQuery := by
    rw [h.storeQuery_eq]
    split
    · exact missesNothing_error (by simp)
    · split
      · exact missesNothing_error (by simp)
      · exact missesNothing_error (by simp)
      · exact missesNothing_ok _
  exact hstore.bind fun found => missesNothing_ok _

end

/-- The query is a timeseries, and its metric has an entity and a number. -/
def IsStored (m : Envelope) : Prop :=
  ∃ t entity id, m.query = some (.timeseries t) ∧ t.metric.entity = some entity ∧
    t.metric.id = some id

section

variable {m : Envelope} {q : Query} {start ending : Instant} {rollup : Rollup} {scope : Scope}

theorem HasParts.exists_clauseText_iff (h : m.HasParts q start ending rollup scope)
    (layout : Layout) : (∃ text, m.clauseText layout = .ok text) ↔ m.IsStored := by
  have hclauses : (∃ text, m.clauseText layout = .ok text) ↔ ∃ found, m.storeQuery = .ok found := by
    constructor
    · rintro ⟨text, htext⟩
      obtain ⟨found, hfound, -⟩ := bind_eq_ok.1 htext
      exact ⟨found, hfound⟩
    · rintro ⟨found, hfound⟩
      exact ⟨_, bind_of_ok _ hfound⟩
  rw [hclauses, h.storeQuery_eq, IsStored, h.query]
  cases q with
  | formula f => simp
  | timeseries t =>
    obtain ⟨⟨publicName, mri, id, entity⟩, aggregate, parameters, filters, groupby⟩ := t
    cases entity with
    | none => simp
    | some entity => cases id <;> simp

/-- Rewriting the filters leaves the metric. -/
theorem isStored_collapse : m.collapse.IsStored ↔ m.IsStored := by
  unfold IsStored Envelope.collapse
  cases m.query with
  | none => simp
  | some q =>
    rw [Option.map_some, Query.collapse_eq]
    cases q with
    | formula f => simp [Query.withFilters]
    | timeseries t => simp [Query.withFilters]

end

/-- **The outputs of an envelope agree.**  Where the check of the envelope fails, all of them fail
with what it found.  Where it succeeds, no part is found missing; the clauses can be written, with
the filters rewritten or as they are, exactly if the query is a timeseries whose metric has an entity
and a number; and where the payload can be written it can be written with the filters rewritten,
with the same context and the text of the query in which nothing but the filters at the root is
another. -/
theorem outputs_agree (m : Envelope) :
    (∀ e, m.validate = .error e → m.serialize = .error e ∧ m.print = .error e ∧
      m.serializeClauses = .error e ∧ m.printClauses = .error e) ∧
    (m.validate = .ok () →
      (∀ part, m.serialize ≠ .error (.refused (.missing part)) ∧
        m.print ≠ .error (.refused (.missing part)) ∧
        m.serializeClauses ≠ .error (.refused (.missing part)) ∧
        m.printClauses ≠ .error (.refused (.missing part))) ∧
      ((∃ text, m.serializeClauses = .ok text) ↔ ∃ text, m.printClauses = .ok text) ∧
      ((∃ text, m.printClauses = .ok text) ↔ m.IsStored) ∧
      ∀ p, m.print = .ok p → ∃ q p', m.query = some q ∧ m.serialize = .ok p' ∧
        p'.context = p.context ∧ (q.withFilters q.collapsedFilters).print = .ok p'.mql) := by
  constructor
  · intro e he
    simp only [serialize, print, serializeClauses, printClauses, he]
    exact ⟨rfl, rfl, rfl, rfl⟩
  intro hvalid
  have hserialize : m.serialize = QueryError.ofRefusal m.collapse.payload := bind_of_ok _ hvalid
  have hprint : m.print = QueryError.ofRefusal m.payload := bind_of_ok _ hvalid
  have hserializeClauses : m.serializeClauses =
      QueryError.ofRefusal (m.collapse.clauseText .oneLine) := bind_of_ok _ hvalid
  have hprintClauses : m.printClauses = QueryError.ofRefusal (m.clauseText .lineEach) :=
    bind_of_ok _ hvalid
  obtain ⟨q, start, ending, rollup, scope, _, hparts, -, -⟩ := exists_parts hvalid
  have hstored : (∃ text, m.printClauses = .ok text) ↔ m.IsStored := by
    simp only [hprintClauses, QueryError.ofRefusal_eq_ok]
    exact hparts.exists_clauseText_iff .lineEach
  have hstored' : (∃ text, m.serializeClauses = .ok text) ↔ m.IsStored := by
    simp only [hserializeClauses, QueryError.ofRefusal_eq_ok]
    rw [hparts.collapse.exists_clauseText_iff .oneLine, isStored_collapse]
  refine ⟨fun part => ?_, hstored'.trans hstored.symm, hstored, fun p hp => ?_⟩
  · rw [hserialize, hprint, hserializeClauses, hprintClauses]
    exact ⟨hparts.collapse.missesNothing_payload.ofRefusal part,
      hparts.missesNothing_payload.ofRefusal part,
      (hparts.collapse.missesNothing_clauseText .oneLine).ofRefusal part,
      (hparts.missesNothing_clauseText .lineEach).ofRefusal part⟩
  · rw [hprint, QueryError.ofRefusal_eq_ok, hparts.payload_eq] at hp
    obtain ⟨mql, hmql, hp⟩ := bind_eq_ok.1 hp
    cases pure_eq_ok.1 hp
    obtain ⟨mql', hmql'⟩ := Query.exists_print_collapse hmql
    refine ⟨q, ⟨mql', m.collapse.contextOf q.collapse start ending rollup scope⟩, hparts.query,
      ?_, ?_, ?_⟩
    · rw [hserialize, QueryError.ofRefusal_eq_ok, hparts.collapse.payload_eq, bind_of_ok _ hmql']
      rfl
    · simp only [contextOf, Query.entity?_collapse]
      rfl
    · rw [← Query.collapse_eq]
      exact hmql'

/-- The alternatives of a sum are rewritten to a list of values in its payload, and its clauses can be
written as well. -/
theorem outputs_agree_alternatives :
    let metric : Metric := ⟨some "a", none, some 7, some "e"⟩
    let alternatives := Filter.group .or [.condition (.ofColumn "k" .eq (.string "x")),
      .condition (.ofColumn "k" .eq (.string "y"))]
    let m : Envelope := { empty with
      query := some (.timeseries ⟨metric, "sum", none, some [alternatives], none⟩)
      start := some ⟨0, 0⟩
      ending := some ⟨60, 0⟩
      rollup := some { Rollup.ofInterval 60 with granularity := some 60 }
      scope := some ⟨[1], [2], none⟩ }
    m.validate = .ok () ∧ (∃ text, m.serializeClauses = .ok text) ∧
      ∃ p p', m.print = .ok p ∧ m.serialize = .ok p' ∧ p'.context = p.context ∧
        p'.mql = "sum(a)\x7bk:[\"x\", \"y\"]\x7d" := by
  intro metric alternatives m
  have hvalid : m.validate = .ok () := by rfl
  obtain ⟨-, hclauses, hstored, hpayload⟩ := (outputs_agree m).2 hvalid
  obtain ⟨p, hp⟩ := exists_of_isSome (x := m.print) (by decide +kernel)
  obtain ⟨q, p', hq, hp', hcontext, hmql⟩ := hpayload p hp
  refine ⟨hvalid, hclauses.2 (hstored.2 ⟨_, _, _, rfl, rfl, rfl⟩), p, p', hp, hp', hcontext, ?_⟩
  cases Option.some.inj hq
  have hwritten : Query.print (.timeseries ⟨metric, "sum", none,
      some [.condition (.ofColumn "k" .isIn (.ofStrings ["x", "y"]))], none⟩) =
      .ok "sum(a)\x7bk:[\"x\", \"y\"]\x7d" := by rfl
  exact Except.ok.inj (hmql.symm.trans hwritten)

end Envelope

end MetricQuery
