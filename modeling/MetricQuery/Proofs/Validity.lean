import MetricQuery.Proofs.Accepted
import MetricQuery.Proofs.Checks

/-!
# What a check can find in an accepted query

A query that is read is normal, so that hardly anything is left for its check to find: an aggregate
that is still missing, arithmetic without two operands, and numbers that are not finite.

* `Operand.fault?`             : what a check can find on a normal node;
* `Filter.IsNormal.validate_eq` : normal filters pass their check;
* `Operand.IsNormal.validate_eq` : the check of a normal operand finds the first fault of its nodes;
* `Operand.validate_eq_ok`     : any operand passes its check exactly if every node of it does;
* `Query.validate_of_parse`    : what makes an accepted query pass its check, and what it can fail for.
-/

set_option autoImplicit false

namespace MetricQuery

open Outcome

/-! ## Filters and parameters -/

theorem Literal.validateArray_strings (items : List String) (seen : Option Family)
    (h : seen = none ∨ seen = some .string) : validateArray seen (items.map string) = .ok () := by
  induction items generalizing seen with
  | nil => rw [List.map_nil, validateArray]
  | cons item rest ih =>
    have hitem : (string item).validate = .ok () := by
      rw [validate]
      all_goals simp
    rcases h with rfl | rfl
    · unfold validateArray
      exact (bind_of_ok _ hitem).trans (ih _ (.inr rfl))
    · unfold validateArray
      exact (bind_of_ok _ hitem).trans (ih _ (.inr rfl))

/-- What operators are compared with passes its check. -/
theorem Comparison.Takes.validate_eq {op : Comparison} {value : Literal} (h : op.Takes value) :
    value.validate = .ok () := by
  cases h with
  | exact _ _ => rw [Literal.validate]; all_goals simp
  | pattern _ _ => rw [Literal.validate]; all_goals simp
  | @list items _ _ =>
    rw [Literal.ofStrings, Literal.validate]
    exact Literal.validateArray_strings items none (.inl rfl)

theorem Comparison.Takes.isUnary_eq {op : Comparison} {value : Literal} (h : op.Takes value) :
    op.isUnary = false := by
  cases h with
  | exact hop _ => rcases hop with rfl | rfl <;> rfl
  | pattern hop _ => rcases hop with rfl | rfl <;> rfl
  | list hop _ => rcases hop with rfl | rfl <;> rfl

theorem Condition.IsNormal.validate_eq {c : Condition} (h : c.IsNormal) :
    c.validate = .ok () := by
  cases h with
  | mk hname hvalue =>
    have hlhs := hname.valid
    have hrhs := hvalue.validate_eq
    have hunary := hvalue.isUnary_eq
    simp only [Condition.validate, Condition.ofColumn, Expr.validate, hlhs, hunary, hrhs]
    rfl

/-- **Normal filters pass their check.** -/
theorem Filter.IsNormal.validate_eq {f : Filter} (h : f.IsNormal) : f.validate = .ok () := by
  induction h with
  | condition hc =>
    rw [Filter.validate]
    exact hc.validate_eq
  | group hlen _ ih =>
    rw [Filter.validate, if_neg (by omega)]
    exact Filter.validateAll_eq_ok.2 ih

theorem IsSelection.validate_eq {filters : Option (List Filter)} {groupby : Option (List Column)}
    (h : IsSelection filters groupby) : validateSelection filters groupby = .ok () := by
  have hfilters : Filter.validateAll (filters.getD []) = .ok () :=
    Filter.validateAll_eq_ok.2 fun f hf => (h.filters_normal f hf).validate_eq
  have hgrouping : Invalid.checkAll Column.validate (groupby.getD []) = .ok () :=
    Invalid.checkAll_eq_ok_iff.2 fun c hc => (h.groupby_writable c hc).valid
  rw [validateSelection, bind_of_ok _ hfilters]
  exact hgrouping

theorem IsCallName.isEmpty_eq {name : String} (h : IsCallName name.toList) :
    name.isEmpty = false := by
  rw [← Bool.not_eq_true]
  intro hempty
  have hname : name = "" := String.isEmpty_iff.1 hempty
  rw [hname] at h
  exact h.nonempty rfl

/-! ## Faults -/

/-- What a check can find on a normal node, whatever is below it. -/
def Operand.fault? : Operand → Option Invalid
  | .formula f =>
    if f.operator?.isSome && f.operands.length != 2 then some (.operandCount f.function) else none
  | .timeseries t => if t.hasAggregate then none else some .missingAggregate
  | .float x => if x.isFinite then none else some (.infiniteOperand x)
  | _ => none

/-- The outcome of a check that finds the first fault of the nodes, if there is one. -/
def firstFault (nodes : List Operand) : Except Invalid Unit :=
  match nodes.findSome? Operand.fault? with
  | some cause => .error cause
  | none => .ok ()

theorem firstFault_cons (n : Operand) (nodes : List Operand) :
    firstFault (n :: nodes) =
      match n.fault? with
      | some cause => .error cause
      | none => firstFault nodes := by
  unfold firstFault
  rw [List.findSome?_cons]
  cases n.fault? <;> rfl

theorem firstFault_append (nodes nodes' : List Operand) :
    firstFault (nodes ++ nodes') = (do
      firstFault nodes
      firstFault nodes') := by
  unfold firstFault
  rw [List.findSome?_append]
  cases nodes.findSome? Operand.fault? <;> rfl

theorem firstFault_eq_ok {nodes : List Operand} :
    firstFault nodes = .ok () ↔ ∀ n ∈ nodes, n.fault? = none := by
  unfold firstFault
  rw [← List.findSome?_eq_none_iff]
  cases nodes.findSome? Operand.fault? <;> simp

theorem exists_fault_of_firstFault {nodes : List Operand} {cause : Invalid}
    (h : firstFault nodes = .error cause) : ∃ n ∈ nodes, n.fault? = some cause := by
  unfold firstFault at h
  split at h
  · rename_i found hfound
    cases h
    exact List.exists_of_findSome?_eq_some hfound
  · cases h

/-! ## Nodes -/

/-- A normal series fails its check for want of an aggregate only. -/
theorem Timeseries.IsNormal.validate_eq {t : Timeseries} (h : t.IsNormal) :
    t.validate = if t.hasAggregate then .ok () else .error .missingAggregate := by
  have hmetric := h.metric.validate_eq
  have hempty := h.aggregate.isEmpty_eq
  have hparameters := h.parameters.areParameters_eq
  have hselection := h.selection.validate_eq
  unfold Timeseries.validate
  rw [bind_of_ok _ hmetric]
  cases t.hasAggregate with
  | false => rfl
  | true =>
    simp only [hempty, hparameters, hselection]
    rfl

/-- The head of a normal formula fails its check for the number of operands only. -/
theorem Formula.IsNormal.validateHead_eq {f : Formula} (h : f.IsNormal) :
    validateHead f.function f.parameters f.operands.length =
      if f.operator?.isSome && f.operands.length != 2 then .error (.operandCount f.function)
      else .ok () := by
  have hempty := h.function.isEmpty_eq
  have hlen : f.operands.length ≠ 0 := fun e => h.operands (List.length_eq_zero_iff.1 e)
  have hparameters := h.parameters.areParameters_eq
  unfold validateHead operator?
  rw [if_neg (by simp [hempty]), if_neg hlen, if_pos hparameters]
  split <;> rfl

theorem Operand.validateAll_eq {os : List Operand}
    (h : ∀ o ∈ os, o.validate = firstFault o.nodes) :
    validateAll os = firstFault (nodesAll os) := by
  induction os with
  | nil =>
    rw [validateAll, nodesAll]
    rfl
  | cons o os ih =>
    rw [validateAll, nodesAll, firstFault_append, h o (by simp),
      ih fun x hx => h x (by simp [hx])]

/-- **The check of a normal operand finds the first fault of its nodes.** -/
theorem Operand.IsNormal.validate_eq {o : Operand} (h : o.IsNormal) :
    o.validate = firstFault o.nodes := by
  induction o using Operand.induction with
  | formula f ih =>
    obtain ⟨hf, hos⟩ := Operand.isNormal_formula.1 h
    have hhead := hf.validateHead_eq
    have hoperands := Operand.validateAll_eq fun o ho => ih o ho (hos o ho)
    have hselection := hf.selection.validate_eq
    obtain ⟨function, parameters, operands, filters, groupby⟩ := f
    rw [Operand.validate, Formula.validate, Operand.nodes, Formula.nodes, firstFault_cons]
    dsimp only at hhead hoperands hselection
    rw [hhead, hoperands, hselection, Operand.fault?]
    split
    · rfl
    · show (do
        firstFault (Operand.nodesAll operands)
        Except.ok ()) = firstFault (Operand.nodesAll operands)
      cases firstFault (Operand.nodesAll operands) <;> rfl
  | timeseries t =>
    rw [Operand.validate, (Operand.isNormal_timeseries.1 h).validate_eq, Operand.nodes,
      firstFault_cons, Operand.fault?]
    cases t.hasAggregate <;> rfl
  | int n =>
    rw [Operand.validate]
    · rfl
    all_goals simp
  | float x =>
    rw [Operand.validate, Operand.nodes, firstFault_cons, Operand.fault?]
    cases x.isFinite <;> rfl
  | string s =>
    rw [Operand.validate]
    · rfl
    all_goals simp

/-! ## What a check asks of every node -/

/-- What a check asks of a node, whatever is below it. -/
def Operand.Passes : Operand → Prop
  | .formula f =>
    Formula.validateHead f.function f.parameters f.operands.length = .ok () ∧
      validateSelection f.filters f.groupby = .ok ()
  | .timeseries t => t.validate = .ok ()
  | .float x => x.isFinite = true
  | _ => True

/-- **An operand passes its check exactly if every node does.** -/
theorem Operand.validate_eq_ok {o : Operand} :
    o.validate = .ok () ↔ ∀ n ∈ o.nodes, n.Passes := by
  induction o using Operand.induction with
  | formula f ih =>
    have hvalid : (Operand.formula f).validate = .ok () ↔
        (Operand.formula f).Passes ∧ ∀ o ∈ f.operands, o.validate = .ok () := by
      rw [validate, Formula.validate_eq_ok, Passes]
      tauto
    rw [hvalid]
    simp only [mem_nodes_formula]
    constructor
    · rintro ⟨hf, hos⟩ n (rfl | ⟨o, ho, hn⟩)
      · exact hf
      · exact (ih o ho).1 (hos o ho) n hn
    · intro h
      exact ⟨h _ (.inl rfl), fun o ho => (ih o ho).2 fun n hn => h n (.inr ⟨o, ho, hn⟩)⟩
  | timeseries t => simp [validate, nodes, Passes]
  | int n => simp [validate, nodes, Passes]
  | float x =>
    simp only [validate, nodes, List.forall_mem_singleton, Passes]
    exact lastDemand_eq_ok
  | string s => simp [validate, nodes, Passes]

/-! ## Accepted queries -/

namespace Query

theorem validate_eq_toOperand (q : Query) : q.validate = q.toOperand.validate := by
  cases q with
  | timeseries t => rw [toOperand, Operand.validate]; rfl
  | formula f => rw [toOperand, Operand.validate]; rfl

/-- The query can be run: each timeseries has its aggregate, arithmetic is of two operands, and
numbers are finite. -/
structure IsComplete (q : Query) : Prop where
  aggregate : ∀ t, Operand.timeseries t ∈ q.toOperand.nodes → t.aggregate ≠ placeholder
  operands : ∀ f, Operand.formula f ∈ q.toOperand.nodes → ∀ op : ArithmeticOp,
    f.function = op.name → f.operands.length = 2
  finite : ∀ x, Operand.float x ∈ q.toOperand.nodes → x.isFinite = true

theorem isComplete_iff {q : Query} :
    q.IsComplete ↔ ∀ n ∈ q.toOperand.nodes, n.fault? = none := by
  constructor
  · intro h n hn
    cases n with
    | formula f =>
      cases hop : f.operator? with
      | none => simp [Operand.fault?, hop]
      | some op =>
        have hlen := h.operands f hn op (ArithmeticOp.name_of_ofName? hop).symm
        simp [Operand.fault?, hlen]
    | timeseries t => simpa [Operand.fault?, Timeseries.hasAggregate] using h.aggregate t hn
    | int n => rfl
    | float x => simpa [Operand.fault?] using h.finite x hn
    | string s => rfl
  · intro h
    refine ⟨fun t ht => ?_, fun f hf op hop => ?_, fun x hx => ?_⟩
    · simpa [Operand.fault?, Timeseries.hasAggregate] using h _ ht
    · have hfault := h _ hf
      have hname : f.operator? = some op := by rw [Formula.operator?, hop, ArithmeticOp.ofName?_name]
      simpa [Operand.fault?, hname] using hfault
    · simpa [Operand.fault?] using h _ hx

/-- **What makes an accepted query pass its check.**  Nothing but a missing aggregate, arithmetic
without two operands and numbers that are not finite can make it fail. -/
theorem validate_of_parse {text : String} {q : Query} (h : parse text = .ok q) :
    (q.validate = .ok () ↔ q.IsComplete) ∧
      ∀ cause, q.validate = .error cause →
        cause = .missingAggregate ∨ (∃ name, cause = .operandCount name) ∨
          ∃ x, cause = .infiniteOperand x := by
  have hnormal : q.toOperand.IsNormal := isNormal_of_parse h
  rw [validate_eq_toOperand, hnormal.validate_eq]
  refine ⟨firstFault_eq_ok.trans isComplete_iff.symm, fun cause hcause => ?_⟩
  obtain ⟨n, -, hn⟩ := exists_fault_of_firstFault hcause
  cases n with
  | formula f =>
    rw [Operand.fault?] at hn
    split at hn <;> cases hn
    exact .inr (.inl ⟨f.function, rfl⟩)
  | timeseries t =>
    rw [Operand.fault?] at hn
    split at hn <;> cases hn
    exact .inl rfl
  | float x =>
    rw [Operand.fault?] at hn
    split at hn <;> cases hn
    exact .inr (.inr ⟨x, rfl⟩)
  | int n => cases hn
  | string s => cases hn

/-- Arithmetic that is called by its name may have three operands, and is refused for that. -/
theorem validate_of_parse_plus :
    ∃ q, parse "plus(sum(a), 1, f(2.5))" = .ok q ∧ ¬ q.IsComplete ∧
      (q.validate = .ok () ↔ q.IsComplete) ∧
      ∀ cause, q.validate = .error cause →
        cause = .missingAggregate ∨ (∃ name, cause = .operandCount name) ∨
          ∃ x, cause = .infiniteOperand x := by
  obtain ⟨q, hq⟩ := exists_of_isSome (x := parse "plus(sum(a), 1, f(2.5))") (by decide +kernel)
  have hvalid := validate_of_parse hq
  refine ⟨q, hq, fun hcomplete => ?_, hvalid⟩
  have hfail : ((parse "plus(sum(a), 1, f(2.5))").toOption.any
      fun q => q.validate.toOption.isSome) = false := by decide +kernel
  rw [hq] at hfail
  simp [Except.toOption, hvalid.1.2 hcomplete] at hfail

end Query

end MetricQuery
