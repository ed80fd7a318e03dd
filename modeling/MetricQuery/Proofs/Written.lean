import MetricQuery.Proofs.Outcome
import MetricQuery.Proofs.Normal

/-!
# Normal queries can be written

Nothing in a query of the normal form is refused by the printer.

* `Filter.IsNormal.exists_print`  : a normal filter has a text;
* `IsSelection.exists_text`       : so have normal filters and groupings;
* `Operand.exists_print`          : so has an operand, where the parts of its nodes have texts;
* `Operand.IsNormal.exists_print` : a normal operand, above all.
-/

set_option autoImplicit false

namespace MetricQuery

open Outcome

/-! ## Names, parameters and values -/

theorem Metric.IsNamed.exists_print {m : Metric} (h : m.IsNamed) : ∃ text, m.print = .ok text := by
  cases h with
  | publicName _ => exact ⟨_, rfl⟩
  | mri _ => exact ⟨_, rfl⟩

theorem Column.IsWritable.print_eq {c : Column} (h : c.IsWritable) (role : NameRole) :
    c.print role = .ok c.name := by
  rw [Column.print, if_pos h.isName]

theorem Literal.exists_parameterText {p : Literal} (h : p.isParameter = true) :
    ∃ text, p.parameterText = .ok text := by
  cases p with
  | int n => exact ⟨_, rfl⟩
  | float x => exact ⟨_, rfl⟩
  | string s => exact ⟨_, rfl⟩
  | _ => cases h

/-- Numbers and texts can be written as parameters. -/
theorem exists_curryText {parameters : Option (List Literal)} (h : areParameters parameters = true) :
    ∃ text, Literal.curryText parameters = .ok text := by
  cases parameters with
  | none => exact ⟨"", rfl⟩
  | some ps =>
    have hall : ∀ p ∈ ps, ∃ text, p.parameterText = .ok text :=
      fun p hp => Literal.exists_parameterText (List.all_eq_true.1 h p hp)
    obtain ⟨texts, htexts⟩ := exists_mapM_eq_ok hall
    refine ⟨_, bind_eq_ok.2 ⟨texts, ?_, rfl⟩⟩
    rw [Literal.parameterTexts_eq, htexts]

theorem Literal.tagStrings_ofStrings (items : List String) :
    Literal.tagStrings (items.map Literal.string) = .ok (items.map Text.quote) := by
  induction items with
  | nil => rfl
  | cons s items ih =>
    rw [List.map_cons, Literal.tagStrings, bind_of_ok _ (show Literal.tagString _ = .ok s from rfl),
      bind_of_ok _ ih]
    rfl

theorem Literal.exactValue_string {s : String} (h : Grammar.isPrefixPattern s.toList = false) :
    (Literal.string s).exactValue = .ok (Text.quote s) := by
  simp [Literal.exactValue, Literal.tagString, h, bind, Except.bind, pure, Except.pure]

theorem Literal.wildcardValue_string {s : String} (h : Grammar.isPrefixPattern s.toList = true) :
    (Literal.string s).wildcardValue = .ok ("\"" ++ s ++ "\"") := by
  simp [Literal.wildcardValue, Literal.tagString, h, bind, Except.bind, pure, Except.pure]

theorem Literal.tagList_ofStrings (items : List String) :
    (Literal.ofStrings items).tagList =
      .ok ("[" ++ Text.join ", " (items.map Text.quote) ++ "]") :=
  bind_of_ok _ (Literal.tagStrings_ofStrings items)

/-- What operators are compared with has a text, with an exclamation mark or without. -/
theorem Comparison.Takes.exists_text {op : Comparison} {value : Literal} (h : op.Takes value) :
    ∃ found, op.valueText value = .ok found := by
  cases h with
  | exact hop h =>
    rcases hop with rfl | rfl <;> exact ⟨_, bind_of_ok _ (Literal.exactValue_string h)⟩
  | pattern hop h =>
    rcases hop with rfl | rfl <;> exact ⟨_, bind_of_ok _ (Literal.wildcardValue_string h)⟩
  | @list items hop _ =>
    rcases hop with rfl | rfl <;> exact ⟨_, bind_of_ok _ (Literal.tagList_ofStrings items)⟩

/-! ## Filters and groupings -/

theorem Condition.IsNormal.exists_print {c : Condition} (h : c.IsNormal) :
    ∃ text, c.print = .ok text := by
  cases h with
  | mk hname hvalue =>
    obtain ⟨⟨negated, text⟩, htext⟩ := hvalue.exists_text
    refine ⟨_, bind_eq_ok.2 ⟨_, hname.print_eq .tag, bind_eq_ok.2 ⟨_, htext, rfl⟩⟩⟩

/-- **A normal filter can be written.** -/
theorem Filter.IsNormal.exists_print {f : Filter} (h : f.IsNormal) :
    ∃ text, f.print = .ok text := by
  induction h with
  | condition hc =>
    rw [Filter.print]
    exact hc.exists_print
  | group _ _ ih =>
    obtain ⟨texts, htexts⟩ := exists_mapM_eq_ok ih
    rw [Filter.print, Filter.printAll_eq]
    exact ⟨_, bind_of_ok _ htexts⟩

theorem IsSelection.exists_text {filters : Option (List Filter)} {groupby : Option (List Column)}
    (h : IsSelection filters groupby) : ∃ text, selectionText filters groupby = .ok text := by
  have hbraces : ∃ text, bracesText (filters.getD []) = .ok text := by
    unfold bracesText
    split
    · exact ⟨"", rfl⟩
    · obtain ⟨texts, htexts⟩ := exists_mapM_eq_ok (f := Filter.print)
        fun f hf => (h.filters_normal f hf).exists_print
      rw [Filter.printAll_eq]
      exact ⟨_, bind_of_ok _ htexts⟩
  have hgrouping : ∃ text, groupByText (groupby.getD []) = .ok text := by
    unfold groupByText
    split
    · exact ⟨"", rfl⟩
    · obtain ⟨names, hnames⟩ := exists_mapM_eq_ok (f := Column.print .groupBy)
        fun c hc => ⟨_, (h.groupby_writable c hc).print_eq .groupBy⟩
      rw [Column.printAll_eq]
      exact ⟨_, bind_of_ok _ hnames⟩
  obtain ⟨braces, hbraces⟩ := hbraces
  obtain ⟨grouping, hgrouping⟩ := hgrouping
  exact ⟨_, bind_eq_ok.2 ⟨_, hbraces, bind_eq_ok.2 ⟨_, hgrouping, rfl⟩⟩⟩

/-! ## Operands -/

/-- The parts of the node have texts, whatever is below it. -/
def Operand.HasTexts : Operand → Prop
  | .formula f =>
    areParameters f.parameters = true ∧ ∃ text, selectionText f.filters f.groupby = .ok text
  | .timeseries t =>
    (∃ text, t.metric.print = .ok text) ∧ areParameters t.parameters = true ∧
      ∃ text, selectionText t.filters t.groupby = .ok text
  | _ => True

theorem Operand.HasShape.hasTexts {n : Operand} (h : n.HasShape) : n.HasTexts := by
  cases n with
  | formula f =>
    have hf : f.IsShaped := h
    exact ⟨hf.parameters, hf.selection.exists_text⟩
  | timeseries t =>
    have ht : t.IsShaped := h
    exact ⟨ht.metric.exists_print, ht.parameters, ht.selection.exists_text⟩
  | _ => trivial

theorem Timeseries.exists_print {t : Timeseries} (h : (Operand.timeseries t).HasTexts) :
    ∃ text, t.print = .ok text := by
  obtain ⟨⟨metric, hmetric⟩, hparameters, selection, hselection⟩ := h
  obtain ⟨curry, hcurry⟩ := exists_curryText hparameters
  have hhead : ∃ head, t.headText = .ok head := by
    unfold Timeseries.headText
    rw [bind_of_ok _ hmetric]
    split
    · exact ⟨_, bind_of_ok _ hcurry⟩
    · exact ⟨_, rfl⟩
  obtain ⟨head, hhead⟩ := hhead
  exact ⟨_, bind_eq_ok.2 ⟨_, hhead, bind_eq_ok.2 ⟨_, hselection, rfl⟩⟩⟩

theorem Formula.exists_layout {parameters : Option (List Literal)}
    (h : areParameters parameters = true) (function : String) (operands : List String)
    (selection : String) :
    ∃ text, Formula.layout function parameters operands selection = .ok text := by
  obtain ⟨curry, hcurry⟩ := exists_curryText h
  unfold Formula.layout
  split
  · exact ⟨_, rfl⟩
  · rw [bind_of_ok _ hcurry]
    dsimp only
    split
    · split
      · exact ⟨_, rfl⟩
      · exact ⟨_, rfl⟩
    · exact ⟨_, rfl⟩

/-- A formula is laid out from the texts of its operands and of what follows it. -/
theorem Formula.print_eq (f : Formula) :
    f.print = (do
      let texts ← f.operands.mapM Operand.print
      let selection ← selectionText f.filters f.groupby
      Formula.layout f.function f.parameters texts selection) := by
  obtain ⟨function, parameters, operands, filters, groupby⟩ := f
  rw [Formula.print, Operand.printAll_eq]

/-- **An operand can be written where the parts of its nodes can.** -/
theorem Operand.exists_print {o : Operand} (h : ∀ n ∈ o.nodes, n.HasTexts) :
    ∃ text, o.print = .ok text := by
  induction o using Operand.induction with
  | formula f ih =>
    obtain ⟨hparameters, selection, hselection⟩ := h _ (self_mem_nodes _)
    obtain ⟨texts, htexts⟩ := exists_mapM_eq_ok (f := Operand.print)
      fun o ho => ih o ho fun n hn => h n (mem_nodes_formula.2 (.inr ⟨o, ho, hn⟩))
    obtain ⟨text, htext⟩ := Formula.exists_layout hparameters f.function texts selection
    refine ⟨text, ?_⟩
    rw [Operand.print, Formula.print_eq, bind_of_ok _ htexts, bind_of_ok _ hselection, htext]
  | timeseries t =>
    rw [Operand.print]
    exact Timeseries.exists_print (h _ (self_mem_nodes _))
  | int n =>
    rw [Operand.print]
    exact ⟨_, rfl⟩
  | float x =>
    rw [Operand.print]
    exact ⟨_, rfl⟩
  | string s =>
    rw [Operand.print]
    exact ⟨_, rfl⟩

/-- A normal operand can be written. -/
theorem Operand.IsNormal.exists_print {o : Operand} (h : o.IsNormal) :
    ∃ text, o.print = .ok text :=
  Operand.exists_print fun n hn => (h n hn).hasShape.hasTexts

end MetricQuery
