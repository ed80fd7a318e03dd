import MetricQuery.Proofs.ListText

/-!
# Literals that come back

In the text of a query the grammar takes a parameter with a minus for a text without quotes, and the
digits of the least integer for no number at all.  A query with such a literal passes its check and
is written all the same, but the literal does not come back.

* `Query.literals`         : the literals of a query, in order;
* `Operand.IsPlain`        : the literals of a node that the grammar has a form for;
* `Query.literals_return`  : the literals of a query over sums come back if and only if all are plain.
-/

set_option autoImplicit false

namespace MetricQuery

open Grammar Scanner Surface Outcome

/-! ## Literals -/

/-- The literals at a node: the parameters of a call, or an operand that is a literal. -/
inductive LiteralSite where
  | parameters (ps : Option (List Literal))
  | operand (value : Literal)

namespace Operand

/-- The literals at a node, whatever is below it. -/
def literalSite : Operand → LiteralSite
  | .formula f => .parameters f.parameters
  | .timeseries t => .parameters t.parameters
  | .int n => .operand (.int n)
  | .float x => .operand (.float x)
  | .string s => .operand (.string s)

/-- The grammar has a form for the literals of the node: an operand is not the least integer, whose
digits are too many without their minus, and no parameter is infinite or has a minus. -/
def IsPlain (n : Operand) : Prop :=
  n ≠ .int Int64.minValue ∧ ∀ p ∈ n.parameters.getD [], p.IsPlain

/-- The function of a formula can be called. -/
def IsCallable : Operand → Prop
  | .formula f => IsCallName f.function.toList
  | _ => True

/-- A series is the sum of `foo` with any parameters; what selects from a node has a form in the
language. -/
def IsOverFoo : Operand → Prop
  | .formula f => IsSelection f.filters f.groupby
  | .timeseries t =>
    t.metric = .ofPublicName "foo" ∧ t.aggregate = "sum" ∧ IsSelection t.filters t.groupby
  | _ => True

end Operand

/-- The literals of a query, from its root to its leaves and from left to right. -/
def Query.literals (q : Query) : List LiteralSite := q.toOperand.nodes.map Operand.literalSite

/-! ## What reading does to nodes -/

namespace Operand

theorem united_formula (f : Formula) : (Operand.formula f).united = .formula
    ⟨f.function, f.parameters, f.operands.map united, unite f.filters, f.groupby⟩ := by
  obtain ⟨function, parameters, operands, filters, groupby⟩ := f
  rw [united, Formula.united, unitedAll_eq]

theorem reread_formula (f : Formula) : (Operand.formula f).reread = .formula
    ⟨f.function, rereadParameters f.parameters, f.operands.map reread, unite f.filters,
      f.groupby⟩ := by
  obtain ⟨function, parameters, operands, filters, groupby⟩ := f
  rw [reread, Formula.reread, rereadAll_eq]

theorem nodes_united (o : Operand) : o.united.nodes = o.nodes.map united := by
  refine nodes_map (fun f => ⟨_, united_formula f, rfl⟩) (fun o ho => ?_) o
  cases o with
  | formula f => exact absurd rfl (ho f)
  | _ => simp [united, nodes]

theorem nodes_reread (o : Operand) : o.reread.nodes = o.nodes.map reread := by
  refine nodes_map (fun f => ⟨_, reread_formula f, rfl⟩) (fun o ho => ?_) o
  cases o with
  | formula f => exact absurd rfl (ho f)
  | _ => simp [reread, nodes]

/-- The literals of a node are read back as they are exactly if its parameters are plain. -/
theorem literalSite_reread {n : Operand} :
    n.reread.literalSite = n.literalSite ↔ ∀ p ∈ n.parameters.getD [], p.IsPlain := by
  cases n with
  | formula f =>
    rw [reread_formula, ← rereadParameters_eq_self]
    simp [literalSite, parameters]
  | timeseries t =>
    rw [← rereadParameters_eq_self]
    simp [reread, Timeseries.reread, literalSite, parameters]
  | _ => simp [reread, parameters]

variable {n : Operand}

/-- What is read back as a call can be called. -/
theorem isCallable_of_united (h : n.united.HasForm) : n.IsCallable := by
  cases n with
  | formula f =>
    rw [united_formula] at h
    have hf : Formula.IsNormal _ := h
    exact hf.function
  | _ => trivial

/-- A node of the right shape has the form that reading gives it, if what it is read back as has:
the parameters are the same. -/
theorem hasForm_of_united (hshape : n.HasShape) (h : n.united.HasForm) : n.HasForm := by
  have hunsigned := h.areUnsigned
  cases n with
  | formula f =>
    rw [united_formula] at hunsigned
    have hf : f.IsShaped := hshape
    exact ⟨hf.function, hunsigned, hf.operands, hf.selection⟩
  | timeseries t =>
    have ht : t.IsShaped := hshape
    exact ⟨ht.metric, ht.aggregate, hunsigned, ht.selection⟩
  | int n => exact hshape
  | float x => exact h
  | string s => trivial

/-! ## Nodes over sums -/

theorem IsOverFoo.hasTexts (h : n.IsOverFoo) (hpasses : n.Passes) : n.HasTexts := by
  cases n with
  | formula f =>
    exact ⟨(Formula.validateHead_eq_ok.1 hpasses.1).2.2.2, IsSelection.exists_text h⟩
  | timeseries t =>
    obtain ⟨hmetric, -, hselection⟩ := h
    exact ⟨⟨"foo", by rw [hmetric]; rfl⟩, (Timeseries.validate_eq_ok.1 hpasses).2.2.2.1,
      hselection.exists_text⟩
  | _ => trivial

/-- A node over sums has a form, where its function can be called and it is not the least integer. -/
theorem IsOverFoo.hasShape (h : n.IsOverFoo) (hpasses : n.Passes) (hcallable : n.IsCallable)
    (hleast : n ≠ .int Int64.minValue) : n.HasShape := by
  cases n with
  | formula f =>
    obtain ⟨-, hcount, -, hparameters⟩ := Formula.validateHead_eq_ok.1 hpasses.1
    exact ⟨hcallable, hparameters, fun e => hcount (by rw [e]; rfl), h⟩
  | timeseries t =>
    obtain ⟨hmetric, haggregate, hselection⟩ := h
    exact ⟨hmetric ▸ Query.isNamed_foo, haggregate ▸ Query.isCallName_sum,
      (Timeseries.validate_eq_ok.1 hpasses).2.2.2.1, hselection⟩
  | int n =>
    exact Int64.lt_of_le_of_ne (Int64.minValue_le n) fun e => hleast (by rw [e])
  | _ => trivial

theorem Passes.isComplete (h : n.Passes) : n.IsComplete := by
  cases n with
  | formula f =>
    intro hsign
    obtain ⟨op, hop⟩ := Option.isSome_iff_exists.1 hsign
    refine (Formula.validateHead_eq_ok.1 h.1).2.2.1 ?_
    rw [(Formula.sign?_eq_some hop).2, ArithmeticOp.ofName?_name]
    rfl
  | timeseries t => exact (Timeseries.validate_eq_ok.1 h).2.1
  | float x => exact h
  | int n => trivial
  | string s => trivial

theorem IsOverFoo.isGuarded (h : n.IsOverFoo) : n.IsGuarded := by
  cases n with
  | timeseries t =>
    intro mri hmri
    rw [h.1] at hmri
    cases hmri
  | _ => trivial

end Operand

/-! ## Queries over sums -/

namespace Query

variable {q : Query}

/-- What is read never has the least integer for an operand. -/
theorem ne_minValue_of_parse {text : String} (h : parse text = .ok q) {n : Int64}
    (hn : .operand (.int n) ∈ q.literals) : n ≠ Int64.minValue := by
  obtain ⟨m, hm, hsite⟩ := List.mem_map.1 hn
  cases m with
  | int m =>
    have hform : Int64.minValue < m := isNormal_of_parse h _ hm
    cases hsite
    exact fun e => Int64.lt_irrefl (e ▸ hform)
  | _ => cases hsite

/-- A query whose parameters are plain is read back as it was. -/
theorem reread_eq_united
    (h : ∀ n ∈ q.toOperand.nodes, ∀ p ∈ n.parameters.getD [], p.IsPlain) : q.reread = q.united := by
  have hoperand := Operand.reread_eq_united h
  cases q with
  | timeseries t => exact congrArg timeseries (Operand.timeseries.inj hoperand)
  | formula f =>
    rw [toOperand, Operand.reread, Operand.united] at hoperand
    exact congrArg formula (Operand.formula.inj hoperand)

/-- The literals of a query are read back as they are exactly if its parameters are plain. -/
theorem literals_reread : q.reread.literals = q.literals ↔
    ∀ n ∈ q.toOperand.nodes, ∀ p ∈ n.parameters.getD [], p.IsPlain := by
  rw [literals, toOperand_reread, Operand.nodes_reread, List.map_map, literals, List.map_inj_left]
  exact forall₂_congr fun n _ => Operand.literalSite_reread

section

variable (hvalid : q.validate = .ok ()) (hfoo : ∀ n ∈ q.toOperand.nodes, n.IsOverFoo)

include hvalid

theorem passes_of_validate : ∀ n ∈ q.toOperand.nodes, n.Passes := by
  rw [validate_eq_toOperand] at hvalid
  exact Operand.validate_eq_ok.1 hvalid

include hfoo

theorem isWritable_of_callable (hcallable : ∀ n ∈ q.toOperand.nodes, n.IsCallable)
    (hleast : ∀ n ∈ q.toOperand.nodes, n ≠ .int Int64.minValue) : q.toOperand.IsWritable := by
  intro n hn
  have hpasses := passes_of_validate hvalid n hn
  exact ⟨(hfoo n hn).hasShape hpasses (hcallable n hn) (hleast n hn), hpasses.isComplete⟩

/-- **A query over sums is read back with what its parameters are taken for.** -/
theorem parse_reread {text : String} (hprint : q.print = .ok text)
    (hcallable : ∀ n ∈ q.toOperand.nodes, n.IsCallable ∧ n.IsLegible)
    (hleast : ∀ n ∈ q.toOperand.nodes, n ≠ .int Int64.minValue) : parse text = .ok q.reread := by
  have hwritable := isWritable_of_callable hvalid hfoo (fun n hn => (hcallable n hn).1) hleast
  have hclear := Operand.rereads_of_guarded (r := []) (fun n hn => (hcallable n hn).2) hwritable
    (fun n hn => (hfoo n hn).isGuarded) (by simp)
  obtain ⟨text', hprint', hparse⟩ := parse_print_reread hwritable hclear
  rw [hprint] at hprint'
  cases hprint'
  exact hparse

/-- A query over sums that is read back as it was is callable, legible and plain. -/
theorem plain_of_parse {text : String} (hprint : q.print = .ok text)
    (hparse : parse text = .ok q.united) :
    ∀ n ∈ q.toOperand.nodes, n.IsCallable ∧ n.IsLegible ∧ n.IsPlain := by
  have hunited : ∀ n ∈ q.toOperand.nodes, n.united.HasForm := by
    intro n hn
    refine isNormal_of_parse hparse _ ?_
    rw [toOperand_united, Operand.nodes_united]
    exact List.mem_map_of_mem hn
  have hcallable : ∀ n ∈ q.toOperand.nodes, n.IsCallable :=
    fun n hn => Operand.isCallable_of_united (hunited n hn)
  have hleast : ∀ n ∈ q.toOperand.nodes, n ≠ .int Int64.minValue := by
    rintro n hn rfl
    exact Int64.lt_irrefl (hunited _ hn)
  have hnormal : q.IsNormal := fun n hn =>
    Operand.hasForm_of_united (isWritable_of_callable hvalid hfoo hcallable hleast n hn).1
      (hunited n hn)
  obtain ⟨text', hprint', hiff⟩ :=
    parse_print_iff (isWritable_of_callable hvalid hfoo hcallable hleast) hnormal
  rw [hprint] at hprint'
  cases hprint'
  have hrereads := hiff.1 hparse
  intro n hn
  refine ⟨hcallable n hn, (hrereads.1 n hn).isLegible, hleast n hn, ?_⟩
  exact (hnormal n hn).areUnsigned.plain_iff.2 (hrereads.1 n hn).areFinite

/-- **When the literals of a query come back.**  A valid query over sums of `foo` is always written.
It is read back as it was exactly if its functions can be called, each minus stands in front of one
query, and all of its literals are plain.  Where the first two hold, what is read back is the query
with texts in the place of the parameters that are not plain, unless an operand is the least integer;
and the literals are the same, in the same order, exactly if all of them are plain. -/
theorem literals_return :
    ∃ text, q.print = .ok text ∧
      (parse text = .ok q.united ↔
        ∀ n ∈ q.toOperand.nodes, n.IsCallable ∧ n.IsLegible ∧ n.IsPlain) ∧
      ((∀ n ∈ q.toOperand.nodes, n.IsCallable ∧ n.IsLegible) →
        ((∀ n ∈ q.toOperand.nodes, n ≠ .int Int64.minValue) → parse text = .ok q.reread) ∧
        ((∃ q', parse text = .ok q' ∧ q'.literals = q.literals) ↔
          ∀ n ∈ q.toOperand.nodes, n.IsPlain)) := by
  obtain ⟨text, hprint⟩ := Operand.exists_print fun n hn =>
    (hfoo n hn).hasTexts (passes_of_validate hvalid n hn)
  refine ⟨text, hprint, ⟨plain_of_parse hvalid hfoo hprint, fun h => ?_⟩, fun hcallable => ?_⟩
  · rw [← reread_eq_united fun n hn => (h n hn).2.2.2]
    exact parse_reread hvalid hfoo hprint (fun n hn => ⟨(h n hn).1, (h n hn).2.1⟩)
      fun n hn => (h n hn).2.2.1
  · have hparse := parse_reread hvalid hfoo hprint hcallable
    refine ⟨hparse, fun ⟨q', hq', hsame⟩ => ?_, fun hplain => ?_⟩
    · have hleast : ∀ n ∈ q.toOperand.nodes, n ≠ .int Int64.minValue := by
        rintro n hn rfl
        refine ne_minValue_of_parse hq' ?_ rfl
        rw [hsame]
        exact List.mem_map_of_mem hn
      rw [hparse hleast] at hq'
      cases hq'
      exact fun n hn => ⟨hleast n hn, literals_reread.1 hsame n hn⟩
    · exact ⟨_, hparse fun n hn => (hplain n hn).1, literals_reread.2 fun n hn => (hplain n hn).2⟩

end

/-- A parameter with a minus, below a call with a literal. -/
theorem literals_return_minus :
    let t : Timeseries := ⟨.ofPublicName "foo", "sum", some [.int (-1), .string "a"], none, none⟩
    let q : Query := .formula (.new "f" [.timeseries t, .int 3])
    q.validate = .ok () ∧ (∀ n ∈ q.toOperand.nodes, n.IsOverFoo) ∧
      (∀ n ∈ q.toOperand.nodes, n.IsCallable ∧ n.IsLegible) ∧
      ∃ text, q.print = .ok text ∧ parse text = .ok q.reread ∧
        ¬ ∃ q', parse text = .ok q' ∧ q'.literals = q.literals := by
  intro t q
  have hnodes : q.toOperand.nodes = [q.toOperand, .timeseries t, .int 3] := by
    simp [q, toOperand, Operand.nodes, Formula.nodes, Operand.nodesAll, Formula.new]
  have hvalid : q.validate = .ok () := by decide +kernel
  have hfoo : ∀ n ∈ q.toOperand.nodes, n.IsOverFoo := by
    simp only [hnodes, List.forall_mem_cons, List.not_mem_nil, false_imp_iff, implies_true,
      and_true]
    exact ⟨isSelection_none, ⟨rfl, rfl, isSelection_none⟩, trivial⟩
  have hcallable : ∀ n ∈ q.toOperand.nodes, n.IsCallable ∧ n.IsLegible := by
    simp only [hnodes, List.forall_mem_cons, List.not_mem_nil, false_imp_iff, implies_true,
      and_true]
    exact ⟨⟨isCallName_of_isFunctionName (by decide), fun e => absurd e (by decide)⟩,
      ⟨trivial, trivial⟩, trivial, trivial⟩
  obtain ⟨text, hprint, -, hreturn⟩ := literals_return hvalid hfoo
  obtain ⟨hread, hiff⟩ := hreturn hcallable
  refine ⟨hvalid, hfoo, hcallable, text, hprint, hread ?_, fun h => ?_⟩
  · simp only [hnodes, List.forall_mem_cons, List.not_mem_nil, false_imp_iff, implies_true,
      and_true]
    exact ⟨by simp [q, toOperand], by simp, by rintro ⟨⟩⟩
  · have hplain := (hiff.1 h (.timeseries t) (by simp [hnodes])).2 (.int (-1))
      (by simp [Operand.parameters, t])
    exact absurd hplain (by decide : ¬ (0 : Int64) ≤ -1)

/-- A parameter with a minus is taken for a text. -/
example : ((parse "sum(-1)(foo)").toOption.map fun q => q.print.toOption) =
    some (some "sum(\"-1\")(foo)") := by decide +kernel

end Query

end MetricQuery
