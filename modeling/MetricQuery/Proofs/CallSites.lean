import MetricQuery.Grammar.Expression
import MetricQuery.Proofs.Words

/-!
# What is written around operands

The text of a formula is an opening, the texts of its operands with separators between them, and a
closing.  A call without parameters of its own is at risk when it is read: the grammar looks for a
call with parameters first, and may find one that starts in the same place.

* `Formula.print_parts`  : the parts of the text of a formula;
* `Grammar.IsCaptured`   : the identifier of a call is taken for something else;
* `Operand.callSites`    : the identifiers of the calls at risk, with the text behind each call;
* `Operand.Rereads`      : no identifier is captured, and every node has a text of its own;
* `Operand.IsWritable`   : every node has a form and is complete, whatever its parameters are;
* `Operand.united`       : the operand with the filters of each node joined into one;
* `Operand.reread`       : such an operand with what its parameters are read back as.
-/

set_option autoImplicit false

namespace MetricQuery

namespace Grammar

open Scanner Surface

/-- A call with parameters of its own. -/
def curriedCall : Scanner Call :=
  firstOf
    [do
      let (function, params) ← curriedHead
      let inner ← parens selection
      pure (.aggregate function (some params) inner),
     do
      let (function, params) ← curriedHead
      let args ← arguments expression
      pure (.function function (some params) args)]

/-- A call without them. -/
def plainCall : Scanner Call :=
  firstOf
    [do
      let function ← functionName
      let inner ← parens selection
      pure (.aggregate function none inner),
     do
      let function ← functionName
      let args ← arguments expression
      pure (.function function none args)]

/-- The identifier `m` of a call, with `rest` behind the call, is taken for something else: from its
opening parenthesis on, parameters are read up to a closing one, and right behind it a metric or
arguments in parentheses of their own. -/
def IsCaptured (m rest : List Char) : Prop :=
  ∃ params behind,
    parens (attempt (sepBy param comma)) ('(' :: (m ++ ')' :: rest)) = some (params, behind) ∧
      ((parens selection behind).isSome = true ∨ (arguments expression behind).isSome = true)

/-- Parameters are looked for first. -/
theorem call_apply (s : List Char) : call expression s = firstOf [curriedCall, plainCall] s := by
  unfold call curriedCall plainCall
  simp only [firstOf_cons, firstOf_nil, Option.or_none, Option.or_assoc]

end Grammar

/-! ## The parts of a text -/

/-- The text of an operand that has one. -/
def Operand.text (o : Operand) : String := o.print.toOption.getD ""

/-- The identifier of a metric, as it is written. -/
def Metric.text (m : Metric) : String := m.print.toOption.getD ""

namespace Timeseries

variable (t : Timeseries)

/-- The parameters in parentheses. -/
def curry : String := (Literal.curryText t.parameters).toOption.getD ""

/-- The filters and the grouping. -/
def suffix : String := (selectionText t.filters t.groupby).toOption.getD ""

end Timeseries

namespace Formula

variable (f : Formula)

/-- The sign between the operands, if the formula is written as arithmetic. -/
def sign? : Option ArithmeticOp :=
  match f.parameters with
  | none => f.operator?
  | some _ => none

/-- The parameters in parentheses. -/
def curry : String := (Literal.curryText f.parameters).toOption.getD ""

/-- The filters and the grouping. -/
def suffix : String := (selectionText f.filters f.groupby).toOption.getD ""

/-- What is written in front of the operands. -/
def opening : String :=
  match f.sign? with
  | some _ => "("
  | none =>
    (if f.function = negation then if f.suffix = "" then "-" else "(-" else f.function) ++
      f.curry ++ "("

/-- What is written between two operands. -/
def separator : String :=
  match f.sign? with
  | some op => " " ++ op.sign ++ " "
  | none => ", "

/-- What is written behind the operands. -/
def closing : String :=
  (if f.function = negation ∧ f.suffix ≠ "" then "))" else ")") ++ f.suffix

end Formula

theorem ofName?_negation : ArithmeticOp.ofName? negation = none := by decide

theorem Operand.print_eq {o : Operand} (h : ∀ n ∈ o.nodes, n.HasTexts) : o.print = .ok o.text := by
  obtain ⟨text, htext⟩ := exists_print h
  rw [Operand.text, htext]
  rfl

theorem Formula.IsShaped.curry_eq {f : Formula} (h : f.IsShaped) :
    Literal.curryText f.parameters = .ok f.curry := by
  obtain ⟨text, htext⟩ := exists_curryText h.parameters
  rw [Formula.curry, htext]
  rfl

theorem Formula.IsShaped.suffix_eq {f : Formula} (h : f.IsShaped) :
    selectionText f.filters f.groupby = .ok f.suffix := by
  obtain ⟨text, htext⟩ := h.selection.exists_text
  rw [Formula.suffix, htext]
  rfl

open Outcome in
/-- **A formula is written as an opening, its operands and a closing.** -/
theorem Formula.print_parts {f : Formula} (hf : f.IsShaped)
    (hos : ∀ o ∈ f.operands, o.print = .ok o.text) :
    f.print = .ok (f.opening ++ Text.join f.separator (f.operands.map Operand.text) ++
      f.closing) := by
  have htexts : f.operands.mapM Operand.print = .ok (f.operands.map Operand.text) := by
    rw [mapM_eq_ok, List.forall₂_map_right_iff, List.forall₂_same]
    exact hos
  rw [Formula.print_eq, bind_of_ok _ htexts, bind_of_ok _ hf.suffix_eq]
  unfold Formula.layout opening separator closing sign? Formula.operator?
  split
  · -- arithmetic
    rename_i op hop hnone
    have hne : f.function ≠ negation := by
      intro e
      rw [e, ofName?_negation] at hop
      cases hop
    simp [hnone, hop, hne, pure, Except.pure, String.append_assoc]
  · rename_i hsign
    have hsign' : (match f.parameters with
        | none => ArithmeticOp.ofName? f.function
        | some _ => none) = none := by
      cases hp : f.parameters with
      | some ps => rfl
      | none =>
        cases hop : ArithmeticOp.ofName? f.function with
        | none => rfl
        | some op => exact absurd hp (hsign op hop)
    rw [hsign', bind_of_ok _ hf.curry_eq]
    dsimp only
    by_cases hneg : f.function = negation
    · rw [if_pos hneg]
      by_cases hempty : f.suffix = ""
      · simp [hneg, hempty, pure, Except.pure, String.append_assoc]
      · simp [hneg, hempty, pure, Except.pure, String.append_assoc]
    · simp [hneg, pure, Except.pure, String.append_assoc]

namespace Timeseries

variable {t : Timeseries}

theorem curry_of_none (h : t.parameters = none) : t.curry = "" := by
  rw [curry, h]
  rfl

namespace IsShaped

variable (h : t.IsShaped)

include h

theorem metric_eq : t.metric.print = .ok t.metric.text := by
  obtain ⟨text, htext⟩ := h.metric.exists_print
  rw [Metric.text, htext]
  rfl

theorem curry_eq : Literal.curryText t.parameters = .ok t.curry := by
  obtain ⟨text, htext⟩ := exists_curryText h.parameters
  rw [curry, htext]
  rfl

theorem suffix_eq : selectionText t.filters t.groupby = .ok t.suffix := by
  obtain ⟨text, htext⟩ := h.selection.exists_text
  rw [suffix, htext]
  rfl

end IsShaped

open Outcome in
/-- **A series is written as a call of its metric.** -/
theorem print_parts (h : t.IsShaped) (hagg : t.hasAggregate = true) :
    t.print = .ok (t.aggregate ++ t.curry ++ "(" ++ t.metric.text ++ ")" ++ t.suffix) := by
  have hhead : t.headText = .ok (t.aggregate ++ t.curry ++ "(" ++ t.metric.text ++ ")") := by
    rw [headText, bind_of_ok _ h.metric_eq, if_pos hagg, bind_of_ok _ h.curry_eq]
    rfl
  rw [print, bind_of_ok _ hhead, bind_of_ok _ h.suffix_eq]
  rfl

end Timeseries

/-! ## Call sites -/

mutual

/-- The identifier of each call without parameters in a formula and the text behind the call, where
`rest` follows the formula. -/
def Formula.callSites : Formula → List Char → List (List Char × List Char)
  | ⟨function, parameters, operands, filters, groupby⟩, rest =>
    let f : Formula := ⟨function, parameters, operands, filters, groupby⟩
    Operand.callSitesAll f.separator operands (f.closing.toList ++ rest)

/-- The identifier of each call without parameters in an operand and the text behind the call. -/
def Operand.callSites : Operand → List Char → List (List Char × List Char)
  | .formula f, rest => f.callSites rest
  | .timeseries t, rest =>
    match t.parameters with
    | none => [(t.metric.text.toList, t.suffix.toList ++ rest)]
    | some _ => []
  | _, _ => []

/-- The identifier of each call without parameters in operands and the text behind the call. -/
def Operand.callSitesAll (separator : String) :
    List Operand → List Char → List (List Char × List Char)
  | [], _ => []
  | o :: others, rest =>
    o.callSites (Scanner.joinedTail separator (others.map Operand.text) ++ rest) ++
      Operand.callSitesAll separator others rest

end

/-- No parameter is infinite: infinity is written in letters, which read back as a text. -/
def AreFinite (parameters : Option (List Literal)) : Prop :=
  ∀ x, Literal.float x ∈ parameters.getD [] → x.isFinite = true

/-- The node has a text of its own: parameters that are finite, and a minus only in front of a
query. -/
def Operand.IsRegular : Operand → Prop
  | .formula f =>
    AreFinite f.parameters ∧
      (f.function = negation → f.parameters = none ∧ ∃ q : Query, f.operands = [q.toOperand])
  | .timeseries t => AreFinite t.parameters
  | _ => True

/-- A minus stands only in front of a query. -/
def Operand.IsLegible : Operand → Prop
  | .formula f =>
    f.function = negation → f.parameters = none ∧ ∃ q : Query, f.operands = [q.toOperand]
  | _ => True

/-- Every node has a text of its own, and no identifier is captured where it stands, with `rest`
behind the operand. -/
def Operand.Rereads (o : Operand) (rest : List Char) : Prop :=
  (∀ n ∈ o.nodes, n.IsRegular) ∧ ∀ site ∈ o.callSites rest, ¬ Grammar.IsCaptured site.1 site.2

/-- Nothing is mistaken when the text of the query is read. -/
def Query.Rereads (q : Query) : Prop := q.toOperand.Rereads []

namespace Operand

/-- No identifier is captured where it stands, and what is asked of nodes holds of each. -/
def RereadsWith (asked : Operand → Prop) (o : Operand) (rest : List Char) : Prop :=
  (∀ n ∈ o.nodes, asked n) ∧ ∀ site ∈ o.callSites rest, ¬ Grammar.IsCaptured site.1 site.2

/-- Operands reread, one after the other. -/
def RereadAll (asked : Operand → Prop) (separator : String) : List Operand → List Char → Prop
  | [], _ => True
  | o :: others, rest =>
    o.RereadsWith asked (Scanner.joinedTail separator (others.map Operand.text) ++ rest) ∧
      RereadAll asked separator others rest

theorem rereads_iff {o : Operand} {rest : List Char} :
    o.Rereads rest ↔ o.RereadsWith IsRegular rest :=
  Iff.rfl

theorem IsRegular.isLegible {n : Operand} (h : n.IsRegular) : n.IsLegible := by
  cases n with
  | formula f => exact h.2
  | _ => trivial

theorem IsRegular.areFinite {n : Operand} (h : n.IsRegular) : AreFinite n.parameters := by
  cases n with
  | formula f => exact h.1
  | timeseries t => exact h
  | _ => simp [AreFinite, parameters]

theorem Rereads.legibly {o : Operand} {rest : List Char} (h : o.Rereads rest) :
    o.RereadsWith IsLegible rest :=
  ⟨fun n hn => (h.1 n hn).isLegible, h.2⟩

section

variable {asked : Operand → Prop} {rest : List Char}

theorem rereadAll_iff {separator : String} {os : List Operand} :
    RereadAll asked separator os rest ↔
      (∀ o ∈ os, ∀ n ∈ o.nodes, asked n) ∧
        ∀ site ∈ callSitesAll separator os rest, ¬ Grammar.IsCaptured site.1 site.2 := by
  induction os with
  | nil => simp [RereadAll, callSitesAll]
  | cons o others ih =>
    rw [RereadAll, ih, RereadsWith]
    simp only [callSitesAll, List.mem_append, List.forall_mem_cons, or_imp, forall_and]
    constructor
    · rintro ⟨⟨h1, h2⟩, h3, h4⟩
      exact ⟨⟨h1, h3⟩, h2, h4⟩
    · rintro ⟨⟨h1, h3⟩, h2, h4⟩
      exact ⟨⟨h1, h2⟩, h3, h4⟩

/-- **A formula rereads when its head does and its operands do.** -/
theorem rereads_formula {f : Formula} :
    (Operand.formula f).RereadsWith asked rest ↔
      asked (.formula f) ∧ RereadAll asked f.separator f.operands (f.closing.toList ++ rest) := by
  rw [rereadAll_iff, RereadsWith]
  have hsites : (Operand.formula f).callSites rest =
      callSitesAll f.separator f.operands (f.closing.toList ++ rest) := by
    obtain ⟨function, parameters, operands, filters, groupby⟩ := f
    rw [callSites, Formula.callSites]
  rw [hsites]
  simp only [mem_nodes_formula]
  constructor
  · rintro ⟨hnodes, hcalls⟩
    exact ⟨hnodes _ (.inl rfl), fun o ho n hn => hnodes n (.inr ⟨o, ho, hn⟩), hcalls⟩
  · rintro ⟨hf, hos, hcalls⟩
    refine ⟨?_, hcalls⟩
    rintro n (rfl | ⟨o, ho, hn⟩)
    · exact hf
    · exact hos o ho n hn

theorem rereads_timeseries {t : Timeseries} :
    (Operand.timeseries t).RereadsWith asked rest ↔
      asked (.timeseries t) ∧ (t.parameters = none →
        ¬ Grammar.IsCaptured t.metric.text.toList (t.suffix.toList ++ rest)) := by
  have hnodes : (Operand.timeseries t).nodes = [.timeseries t] := by simp [nodes]
  rw [RereadsWith, hnodes, callSites]
  cases t.parameters <;> simp

@[simp] theorem rereads_int (n : Int64) :
    (Operand.int n).RereadsWith asked rest ↔ asked (.int n) := by
  simp [RereadsWith, nodes, callSites]

@[simp] theorem rereads_float (x : Double) :
    (Operand.float x).RereadsWith asked rest ↔ asked (.float x) := by
  simp [RereadsWith, nodes, callSites]

@[simp] theorem rereads_string (s : String) :
    (Operand.string s).RereadsWith asked rest ↔ asked (.string s) := by
  simp [RereadsWith, nodes, callSites]

end

/-- The node can stand in a text: a series has its aggregate, a sign stands between two operands,
and a number is finite. -/
def IsComplete : Operand → Prop
  | .formula f => f.sign?.isSome = true → f.operands.length = 2
  | .timeseries t => t.hasAggregate = true
  | .float x => x.isFinite = true
  | _ => True

instance : (o : Operand) → Decidable o.IsComplete
  | .formula f => inferInstanceAs (Decidable (f.sign?.isSome = true → f.operands.length = 2))
  | .timeseries t => inferInstanceAs (Decidable (t.hasAggregate = true))
  | .int _ => .isTrue trivial
  | .float x => inferInstanceAs (Decidable (x.isFinite = true))
  | .string _ => .isTrue trivial

/-- Every node has a form, whatever its parameters are, and is complete. -/
def IsWritable (o : Operand) : Prop := ∀ n ∈ o.nodes, n.HasShape ∧ n.IsComplete

theorem IsWritable.print_eq {o : Operand} (h : o.IsWritable) : o.print = .ok o.text :=
  Operand.print_eq fun n hn => (h n hn).1.hasTexts

theorem isWritable_formula {f : Formula} :
    (Operand.formula f).IsWritable ↔
      f.IsShaped ∧ (f.sign?.isSome = true → f.operands.length = 2) ∧
        ∀ o ∈ f.operands, o.IsWritable := by
  simp only [IsWritable, mem_nodes_formula]
  constructor
  · intro h
    exact ⟨(h _ (.inl rfl)).1, (h _ (.inl rfl)).2, fun o ho n hn => h n (.inr ⟨o, ho, hn⟩)⟩
  · rintro ⟨hf, hlen, hos⟩ n (rfl | ⟨o, ho, hn⟩)
    · exact ⟨hf, hlen⟩
    · exact hos o ho n hn

theorem isWritable_timeseries {t : Timeseries} :
    (Operand.timeseries t).IsWritable ↔ t.IsShaped ∧ t.hasAggregate = true := by
  simp [IsWritable, nodes, HasShape, IsComplete]

theorem isWritable_int {n : Int64} : (Operand.int n).IsWritable ↔ Int64.minValue < n := by
  simp [IsWritable, nodes, HasShape, IsComplete]

theorem isWritable_float {x : Double} : (Operand.float x).IsWritable ↔ x.isFinite = true := by
  simp [IsWritable, nodes, HasShape, IsComplete]

end Operand

/-! ## Joined filters -/

/-- Several filters become one conjunction. -/
def unite (filters : Option (List Filter)) : Option (List Filter) :=
  filters.map fun fs => if 2 ≤ fs.length then [.group .and fs] else fs

/-- The series with several filters joined. -/
def Timeseries.united (t : Timeseries) : Timeseries := { t with filters := unite t.filters }

mutual

/-- The formula with several filters of one node joined, at every depth. -/
def Formula.united : Formula → Formula
  | ⟨function, parameters, operands, filters, groupby⟩ =>
    ⟨function, parameters, Operand.unitedAll operands, unite filters, groupby⟩

/-- The operand with several filters of one node joined, at every depth. -/
def Operand.united : Operand → Operand
  | .formula f => .formula f.united
  | .timeseries t => .timeseries t.united
  | other => other

/-- Operands with several filters of one node joined. -/
def Operand.unitedAll : List Operand → List Operand
  | [] => []
  | o :: others => o.united :: Operand.unitedAll others

end

/-- The query with several filters of one node joined, at every depth. -/
def Query.united : Query → Query
  | .timeseries t => .timeseries t.united
  | .formula f => .formula f.united

theorem Operand.unitedAll_eq (os : List Operand) : unitedAll os = os.map united := by
  induction os with
  | nil => rfl
  | cons o others ih => rw [unitedAll, ih, List.map_cons]

@[simp] theorem Query.toOperand_united (q : Query) : q.united.toOperand = q.toOperand.united := by
  cases q <;> simp [united, toOperand, Operand.united]

/-! ## What is read back -/

/-- How the parameters of a curried call are read back. -/
def rereadParameters (parameters : Option (List Literal)) : Option (List Literal) :=
  parameters.map fun ps => ps.map Literal.reread

/-- How a series is read back. -/
def Timeseries.reread (t : Timeseries) : Timeseries :=
  { t with parameters := rereadParameters t.parameters, filters := unite t.filters }

mutual

/-- How a formula is read back: with several filters of one node joined, and with what its
parameters are taken for. -/
def Formula.reread : Formula → Formula
  | ⟨function, parameters, operands, filters, groupby⟩ =>
    ⟨function, rereadParameters parameters, Operand.rereadAll operands, unite filters, groupby⟩

/-- How an operand is read back. -/
def Operand.reread : Operand → Operand
  | .formula f => .formula f.reread
  | .timeseries t => .timeseries t.reread
  | other => other

/-- How operands are read back. -/
def Operand.rereadAll : List Operand → List Operand
  | [] => []
  | o :: others => o.reread :: Operand.rereadAll others

end

/-- How a query is read back. -/
def Query.reread : Query → Query
  | .timeseries t => .timeseries t.reread
  | .formula f => .formula f.reread

theorem Operand.rereadAll_eq (os : List Operand) : rereadAll os = os.map reread := by
  induction os with
  | nil => rfl
  | cons o others ih => rw [rereadAll, ih, List.map_cons]

@[simp] theorem Query.toOperand_reread (q : Query) : q.reread.toOperand = q.toOperand.reread := by
  cases q <;> simp [reread, toOperand, Operand.reread]

/-- Plain parameters are read back as they are. -/
theorem rereadParameters_eq_self {parameters : Option (List Literal)} :
    rereadParameters parameters = parameters ↔ ∀ p ∈ parameters.getD [], p.IsPlain := by
  cases parameters with
  | none => simp [rereadParameters]
  | some ps => simp [rereadParameters, map_reread_eq_self_iff]

/-- Of parameters without a minus, only infinities are not plain. -/
theorem AreUnsigned.plain_iff {parameters : Option (List Literal)} (h : AreUnsigned parameters) :
    (∀ p ∈ parameters.getD [], p.IsPlain) ↔ AreFinite parameters := by
  constructor
  · exact fun hplain x hx => (hplain _ hx).1
  · intro hfinite p hp
    cases h p hp with
    | int hn => exact hn
    | float hx => exact ⟨hfinite _ hp, hx⟩
    | string => trivial

/-- Where all parameters are plain, nothing but the filters of a node changes. -/
theorem Operand.reread_eq_united {o : Operand}
    (h : ∀ n ∈ o.nodes, ∀ p ∈ n.parameters.getD [], p.IsPlain) : o.reread = o.united := by
  induction o using Operand.induction with
  | formula f ih =>
    have hself := rereadParameters_eq_self.2 (h _ (self_mem_nodes _))
    have hall : f.operands.map reread = f.operands.map united := List.map_congr_left fun o ho =>
      ih o ho fun n hn => h n (mem_nodes_formula.2 (.inr ⟨o, ho, hn⟩))
    obtain ⟨function, ps, operands, filters, groupby⟩ := f
    dsimp only [parameters] at hself hall
    rw [reread, Formula.reread, united, Formula.united, unitedAll_eq, rereadAll_eq, hall, hself]
  | timeseries t =>
    have hself := rereadParameters_eq_self.2 (h _ (self_mem_nodes _))
    dsimp only [parameters] at hself
    rw [reread, Timeseries.reread, united, Timeseries.united, hself]
  | int n => rfl
  | float x => rfl
  | string s => rfl

end MetricQuery
