import MetricQuery.Proofs.CallCapture
import MetricQuery.Proofs.FunctionText
import MetricQuery.Proofs.Validity

/-!
# Queries that are written and read again

An accepted query that passes its check can be written, and what is written is read back as the
query with the filters of each node joined, if and only if no identifier is captured by parameters
in its place, no parameter is infinite, and no minus stands in front of anything but one query.

* `Query.parse_print_reread` : what a writable query is read back as;
* `Query.parse_print_iff`    : when a normal one is read back as it was;
* `Query.reparse_iff`        : so for every query that was read and is valid;
* `Query.parse_print`        : printable queries are read back, where identifiers are guarded.
-/

set_option autoImplicit false

namespace MetricQuery

open Grammar Scanner Surface Outcome

/-! ## Ends of a text -/

/-- A text that neither starts nor ends with a blank is trimmed. -/
theorem trim_of_stops {s w : List Char} {c : Char} (hs : s = w ++ [c]) (hstart : Stops Text.isBlank s)
    (hend : Text.isBlank c = false) : Text.trim s = s := by
  unfold Text.trim Text.trimEnd
  rw [trimStart_of_stops hstart, trimStart_of_stops, List.reverse_reverse]
  rw [hs, List.reverse_append]
  exact stops_cons.2 hend

/-- The text of a query ends with what closes it. -/
theorem Query.text_ends {q : Query} (h : q.toOperand.IsWritable) :
    ∃ w c, q.toOperand.text.toList = w ++ [c] ∧ Text.isBlank c = false := by
  have hends : ∀ {front suffix : String} {fs : Option (List Filter)} {gs : Option (List Column)},
      selectionText fs gs = .ok suffix → q.toOperand.text = front ++ ")" ++ suffix →
      ∃ w c, q.toOperand.text.toList = w ++ [c] ∧ Text.isBlank c = false := by
    intro front suffix fs gs hsuffix htext
    rcases suffix_ends hsuffix with hnil | ⟨c, w, d, hcons, -, hd⟩
    · exact ⟨front.toList, ')', by rw [htext]; simp [hnil], by decide⟩
    · refine ⟨front.toList ++ ')' :: c :: w, d, by rw [htext]; simp [hcons], ?_⟩
      rcases hd with rfl | rfl <;> decide
  cases q with
  | timeseries t =>
    obtain ⟨hshaped, hagg⟩ := Operand.isWritable_timeseries.1 h
    have htext : (toOperand (.timeseries t)).text =
        (t.aggregate ++ t.curry ++ "(" ++ t.metric.text) ++ ")" ++ t.suffix := by
      rw [toOperand, Operand.text, Operand.print, Timeseries.print_parts hshaped hagg]
      rfl
    exact hends hshaped.suffix_eq htext
  | formula f =>
    have hsuffix := (Operand.isWritable_formula.1 h).1.suffix_eq
    have htext : (toOperand (.formula f)).text =
        (f.opening ++ Text.join f.separator (f.operands.map Operand.text) ++
          if f.function = negation ∧ f.suffix ≠ "" then ")" else "") ++ ")" ++ f.suffix := by
      rw [toOperand, Operand.text_formula h, Formula.closing]
      split <;> simp [String.append_assoc]
    exact hends hsuffix htext

namespace Query

variable {q : Query}

theorem trim_text (h : q.toOperand.IsWritable) :
    Text.trim q.toOperand.text.toList = q.toOperand.text.toList := by
  obtain ⟨w, c, htext, hc⟩ := text_ends h
  refine trim_of_stops htext ?_ hc
  have hstart := h.isOperandText.stops_isBlank []
  rw [List.append_nil] at hstart
  exact hstart

/-- **A writable query is written, and read back where nothing in it is mistaken**, with what its
parameters are taken for. -/
theorem parse_print_reread (h : q.toOperand.IsWritable)
    (hclear : q.toOperand.RereadsWith Operand.IsLegible []) :
    ∃ text, q.print = .ok text ∧ parse text = .ok q.reread := by
  obtain ⟨e, he, hreduce⟩ := (h.returns [] (.inl rfl) hclear).exists_expression (.inl rfl)
  rw [List.append_nil] at he
  refine ⟨q.toOperand.text, h.print_eq, ?_⟩
  rw [parse_eq_ok, trim_text h]
  exact ⟨e, he, query_eq_ok.2 (by rw [hreduce, toOperand_reread])⟩

/-- **A writable query that is normal is written, and read back as the query with joined filters
exactly if nothing in it is mistaken.** -/
theorem parse_print_iff (h : q.toOperand.IsWritable) (hnormal : q.IsNormal) :
    ∃ text, q.print = .ok text ∧ (parse text = .ok q.united ↔ q.Rereads) := by
  have hread := h.readsBack hnormal
  refine ⟨q.toOperand.text, h.print_eq, ?_⟩
  rw [parse_eq_ok, trim_text h]
  constructor
  · rintro ⟨e, he, hq⟩
    by_contra hnot
    have hastray := hread.strays [] (.inl rfl) hnot
    rw [List.append_nil] at hastray
    have hdeparts := astray_expression hastray [] e [] he _ (query_eq_ok.1 hq)
    rw [List.append_nil, toOperand_united, Operand.marks_united] at hdeparts
    exact hdeparts.ne rfl
  · intro hrereads
    obtain ⟨e, he, hreduce⟩ :=
      (hread.same [] (.inl rfl) hrereads).exists_expression (.inl rfl)
    rw [List.append_nil] at he
    exact ⟨e, he, query_eq_ok.2 (by rw [hreduce, toOperand_united])⟩

/-- What was read and is valid can be written. -/
theorem isWritable_of_parse {text : String} (h : parse text = .ok q)
    (hvalid : q.validate = .ok ()) : q.toOperand.IsWritable := by
  have hcomplete : q.IsComplete := (validate_of_parse h).1.1 hvalid
  intro n hn
  refine ⟨(isNormal_of_parse h n hn).hasShape, ?_⟩
  cases n with
  | formula f =>
    intro hsign
    obtain ⟨op, hop⟩ := Option.isSome_iff_exists.1 hsign
    exact hcomplete.operands f hn op (Formula.sign?_eq_some hop).2
  | timeseries t =>
    simpa [Operand.IsComplete, Timeseries.hasAggregate] using hcomplete.aggregate t hn
  | float x => exact hcomplete.finite x hn
  | int n => trivial
  | string s => trivial

/-- **When the canonical text of an accepted query says the same.**  A valid query that was read can
be written; its text is read back as the query with joined filters exactly if nothing in it is
mistaken. -/
theorem reparse_iff {text : String} (h : parse text = .ok q) (hvalid : q.validate = .ok ()) :
    ∃ written, q.print = .ok written ∧ (parse written = .ok q.united ↔ q.Rereads) :=
  parse_print_iff (isWritable_of_parse h hvalid) (isNormal_of_parse h)

/-- A sum of a minus and a curried call, with a pattern and a grouping, is read and valid. -/
theorem reparse_iff_sum :
    ∃ q, parse "-sum(foo)\x7bk:\"a*\"\x7d + p(0.5)(`d:a/b@c`) by k" = .ok q ∧
      q.validate = .ok () ∧
      ∃ written, q.print = .ok written ∧ (parse written = .ok q.united ↔ q.Rereads) := by
  have hvalid : ((parse "-sum(foo)\x7bk:\"a*\"\x7d + p(0.5)(`d:a/b@c`) by k").toOption.any
      fun q => q.validate.toOption.isSome) = true := by decide +kernel
  cases hq : parse "-sum(foo)\x7bk:\"a*\"\x7d + p(0.5)(`d:a/b@c`) by k" with
  | error fault =>
    rw [hq] at hvalid
    cases hvalid
  | ok q =>
    rw [hq] at hvalid
    have hok : q.validate = .ok () := by
      cases hresult : q.validate with
      | ok => rfl
      | error cause => simp [Except.toOption, hresult] at hvalid
    exact ⟨q, rfl, hok, reparse_iff hq hok⟩

/-- A minus in front of a number is a query of its own only under its name. -/
example : (parse "negate(1)").toOption.map (fun q => q.print.toOption) = some (some "-(1)") ∧
    (parse "-(1)").toOption.isSome = false := by decide +kernel

end Query

/-! ## Printable queries -/

namespace Operand

/-- The identifier of a series is guarded. -/
def IsGuarded : Operand → Prop
  | .timeseries t => ∀ mri, t.metric.mri = some mri → Mri.IsGuarded mri.toList
  | _ => True

/-- The node has the form that reading gives it and can stand in a text, in one that says nothing
else and in which no identifier can be captured. -/
structure IsPrintable (n : Operand) : Prop where
  form : n.HasForm
  complete : n.IsComplete
  regular : n.IsRegular
  guarded : n.IsGuarded

/-- How many filters stand side by side at a node. -/
def filterCount : Operand → Nat
  | .formula f => (f.filters.getD []).length
  | .timeseries t => (t.filters.getD []).length
  | _ => 0

theorem unite_eq_self {fs : Option (List Filter)} (h : (fs.getD []).length ≤ 1) : unite fs = fs := by
  cases fs with
  | none => rfl
  | some fs =>
    have hlen : ¬ 2 ≤ fs.length := Nat.not_le.2 (Nat.lt_succ_of_le h)
    rw [unite, Option.map_some, if_neg hlen]

/-- Where no node has several filters, there is nothing to join. -/
theorem united_eq_self {o : Operand} (h : ∀ n ∈ o.nodes, n.filterCount ≤ 1) : o.united = o := by
  induction o using Operand.induction with
  | formula f ih =>
    obtain ⟨function, parameters, operands, filters, groupby⟩ := f
    have hself := h _ (mem_nodes_formula.2 (.inl rfl))
    have hall : operands.map united = operands.map id := List.map_congr_left fun o ho =>
      ih o ho fun n hn => h n (mem_nodes_formula.2 (.inr ⟨o, ho, hn⟩))
    rw [united, Formula.united, unitedAll_eq, hall, List.map_id, unite_eq_self hself]
  | timeseries t =>
    have hself := h _ (self_mem_nodes _)
    rw [united, Timeseries.united, unite_eq_self hself]
  | int n => rfl
  | float x => rfl
  | string s => rfl

section

variable {asked : Operand → Prop}

/-- Operands reread where each does, if neither what is between them nor what follows is a
parenthesis that opens. -/
theorem rereadAll_of_forall {separator : String} {os : List Operand} {rest : List Char}
    (h : ∀ o ∈ os, ∀ r : List Char, r.head? ≠ some '(' → o.RereadsWith asked r)
    (hsep : ∀ s, (separator.toList ++ s).head? ≠ some '(') (hrest : rest.head? ≠ some '(') :
    RereadAll asked separator os rest := by
  induction os with
  | nil => trivial
  | cons o os ih =>
    refine ⟨h o (by simp) _ ?_, ih fun o ho => h o (by simp [ho])⟩
    exact joinedTail_follows (fun s => s.head? ≠ some '(') (fun _ _ _ => hsep _) hrest

/-- **Nothing is mistaken where every identifier is guarded.** -/
theorem rereads_of_guarded {o : Operand} (hasked : ∀ n ∈ o.nodes, asked n) (h : o.IsWritable)
    (hguarded : ∀ n ∈ o.nodes, n.IsGuarded) {r : List Char} (hr : r.head? ≠ some '(') :
    o.RereadsWith asked r := by
  induction o using Operand.induction generalizing r with
  | formula f ih =>
    refine rereads_formula.2 ⟨hasked _ (self_mem_nodes _), ?_⟩
    have hnodes : ∀ o ∈ f.operands, ∀ n ∈ o.nodes, n ∈ (Operand.formula f).nodes :=
      fun o ho n hn => mem_nodes_formula.2 (.inr ⟨o, ho, hn⟩)
    refine rereadAll_of_forall (fun o ho r hr => ?_) (fun s => ?_) ?_
    · exact ih o ho (fun n hn => hasked n (hnodes o ho n hn)) ((isWritable_formula.1 h).2.2 o ho)
        (fun n hn => hguarded n (hnodes o ho n hn)) hr
    · unfold Formula.separator
      split <;> simp
    · unfold Formula.closing
      split <;> simp
  | timeseries t =>
    obtain ⟨hshaped, -⟩ := isWritable_timeseries.1 h
    refine rereads_timeseries.2 ⟨hasked _ (self_mem_nodes _), fun _ => ?_⟩
    obtain ⟨ref, -, hread⟩ := metric_text hshaped.metric hshaped.metric_eq
    obtain ⟨hsafe, hquote⟩ :=
      hshaped.metric.isGuarded hshaped.metric_eq (hguarded _ (self_mem_nodes _))
    exact not_isCaptured_of_guarded hsafe (fun r => stops_isBlank_of_metric (hread r)) hquote
      (head?_suffix_ne hshaped.suffix_eq hr)
  | int n => exact (rereads_int n).2 (hasked _ (self_mem_nodes _))
  | float x => exact (rereads_float x).2 (hasked _ (self_mem_nodes _))
  | string s => exact (rereads_string s).2 (hasked _ (self_mem_nodes _))

end

end Operand

namespace Query

/-- Every node is printable. -/
def IsPrintable (q : Query) : Prop := ∀ n ∈ q.toOperand.nodes, n.IsPrintable

theorem IsPrintable.isWritable {q : Query} (h : q.IsPrintable) : q.toOperand.IsWritable :=
  fun n hn => ⟨(h n hn).form.hasShape, (h n hn).complete⟩

/-- **A printable query is read back with joined filters.** -/
theorem IsPrintable.parse_eq {q : Query} (h : q.IsPrintable) :
    ∃ text, q.print = .ok text ∧ parse text = .ok q.united := by
  obtain ⟨text, hprint, hiff⟩ := parse_print_iff h.isWritable fun n hn => (h n hn).form
  exact ⟨text, hprint, hiff.2 (Operand.rereads_of_guarded (fun n hn => (h n hn).regular)
    h.isWritable (fun n hn => (h n hn).guarded) (by simp))⟩

/-- **A printable query is written and read back**, with the filters of each node joined; and as it
was, if no node has several filters. -/
theorem parse_print {q : Query} (h : q.IsPrintable) :
    ∃ text, q.print = .ok text ∧ parse text = .ok q.united ∧
      ((∀ n ∈ q.toOperand.nodes, n.filterCount ≤ 1) → parse text = .ok q) := by
  obtain ⟨text, hprint, hparse⟩ := h.parse_eq
  refine ⟨text, hprint, hparse, fun hfew => ?_⟩
  have hsame : q.united = q := by
    have hoperand : q.united.toOperand = q.toOperand := by
      rw [toOperand_united, Operand.united_eq_self hfew]
    cases q with
    | timeseries t => exact congrArg Query.timeseries (Operand.timeseries.inj hoperand)
    | formula f => exact congrArg Query.formula (Operand.formula.inj hoperand)
  rw [hparse, hsame]

/-- A minus over a curried call, with a filter and a grouping, and a number beside it. -/
theorem parse_print_nested :
    let t : Timeseries := ⟨.ofMri "d:a/b c@e", "p", some [.int 99, .string ")("],
      some [.condition (.ofColumn "k" .eq (.string "v"))], some [⟨"k"⟩]⟩
    let q : Query := .formula (.new "f" [.formula (.new negation [.timeseries t]), .int 1])
    q.IsPrintable ∧ ∃ text, q.print = .ok text ∧ parse text = .ok q.united ∧
      ((∀ n ∈ q.toOperand.nodes, n.filterCount ≤ 1) → parse text = .ok q) := by
  intro t q
  have hcolumn : Column.IsWritable ⟨"k"⟩ := ⟨by decide, by decide⟩
  have ht : t.IsNormal := by
    refine ⟨.mri ⟨by decide, by decide, by decide⟩, isCallName_of_isFunctionName (by decide),
      ?_, ⟨by simp [t], ?_, by simp [t], ?_⟩⟩
    · intro p hp
      rcases List.mem_pair.1 hp with rfl | rfl
      · exact .int (by decide)
      · exact .string _
    · intro f hf
      rw [List.mem_singleton.1 hf]
      exact .condition (.mk hcolumn (.exact (.inl rfl) (by decide)))
    · intro c hc
      rw [List.mem_singleton.1 hc]
      exact hcolumn
  have hnodes : q.toOperand.nodes = [q.toOperand, .formula (.new negation [.timeseries t]),
      .timeseries t, .int 1] := by
    simp [q, toOperand, Operand.nodes, Formula.nodes, Operand.nodesAll, Formula.new]
  have hform : ∀ {name : String} {os : List Operand}, IsCallName name.toList → os ≠ [] →
      (Formula.new name os).IsNormal := fun hname hos =>
    ⟨hname, by simp [AreUnsigned, Formula.new], hos, isSelection_none⟩
  have hq : q.IsPrintable := by
    unfold IsPrintable
    simp only [hnodes, List.forall_mem_cons, List.not_mem_nil, false_imp_iff, implies_true,
      and_true]
    refine ⟨⟨hform (isCallName_of_isFunctionName (by decide)) (by simp), by decide,
      ⟨by simp [AreFinite, Formula.new], fun e => absurd e (by decide)⟩, trivial⟩,
      ⟨hform isCallName_negation (by simp), by decide,
        ⟨by simp [AreFinite, Formula.new], fun _ => ⟨rfl, .timeseries t, rfl⟩⟩, trivial⟩,
      ⟨ht, by decide, ?_, fun mri hmri => ?_⟩,
      ⟨(by decide : Int64.minValue < 1), trivial, trivial, trivial⟩⟩
    · show AreFinite t.parameters
      simp [AreFinite, t]
    · cases hmri
      exact .of_notMem (by decide) (by decide)
  exact ⟨hq, parse_print hq⟩

/-- A quoted text that starts in an identifier and ends in a literal is taken for a parameter. -/
example :
    let q : Query := .formula (.new "f" [.timeseries (.new (.ofMri "d:a,\"x/y@z") "sum"),
      .string ")(b)"])
    q.print.toOption = some "f(sum(`d:a,\"x/y@z`), \")(b)\")" ∧
      (parse "f(sum(`d:a,\"x/y@z`), \")(b)\")").toOption.isSome = false := by
  decide +kernel

end Query

end MetricQuery
