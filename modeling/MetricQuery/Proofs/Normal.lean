import MetricQuery.Query.Printer
import MetricQuery.Reduce
import MetricQuery.Proofs.Characters
import MetricQuery.Proofs.Scanning

/-!
# The normal form of queries

What can be written so that it reads back, and what reading yields.

* `Filter.IsNormal`      : groups of two members or more, over conditions that have a written form;
* `Operand.nodes`        : an operand and all that is in it, at every depth;
* `Operand.HasForm`      : the form that reading gives a node;
* `Operand.HasShape`     : such a form, whatever the parameters are;
* `Query.IsNormal`       : every node has the form that reading gives it.
-/

set_option autoImplicit false

namespace MetricQuery

/-! ## Names -/

/-- What can be called.  A name may start with digits only where these are too many for an
integer, since a number would be read otherwise. -/
structure IsCallName (s : List Char) : Prop where
  nonempty : s ≠ []
  chars : ∀ c ∈ s, Grammar.isFunctionChar c = true
  digits : s.takeWhile Char.isDigit = [] ∨ integerBound ≤ valueOf (s.takeWhile Char.isDigit)

/-- A letter or underscore comes first in the names that the clause language has, too. -/
theorem isCallName_of_isFunctionName {s : List Char} (h : Expr.isFunctionName s = true) :
    IsCallName s := by
  match s, h with
  | c :: rest, h =>
    obtain ⟨hstart, hrest⟩ := Bool.and_eq_true_iff.1 h
    have hc : c.isAlpha = true ∨ c = '_' := by
      simpa [Column.isStart] using hstart
    have hdigit : c.isDigit = false := by
      rcases hc with hc | rfl
      · delta Char.isAlpha Char.isUpper Char.isLower at hc
        simp only [Bool.or_eq_true, Bool.and_eq_true, decide_eq_true_eq, Char.isDigit,
          Bool.and_eq_false_iff, decide_eq_false_iff_not] at hc ⊢
        grind
      · decide
    refine ⟨by simp, fun x hx => ?_, .inl (by simp [hdigit])⟩
    rcases List.mem_cons.1 hx with rfl | hx
    · rcases hc with hc | rfl
      · simp [Grammar.isFunctionChar, Char.isAlphanum, hc]
      · decide
    · exact List.all_eq_true.1 hrest x hx

/-- Parts of small letters and underscores, with points between them. -/
def IsPublicName (s : List Char) : Prop :=
  ∃ first rest, s = first ++ rest.flatMap (fun part => '.' :: part) ∧
    ∀ part ∈ first :: rest, part ≠ [] ∧ ∀ c ∈ part, Grammar.isPublicChar c = true

/-- The part of a resource identifier between the first slash that is behind the first colon and
the at-sign that comes next. -/
def Mri.nameSegment (s : List Char) : List Char :=
  (((s.dropWhile (· != ':')).dropWhile (· != '/')).drop 1).takeWhile (· != '@')

/-- A resource identifier that can be written between back quotes. -/
structure Mri.IsWritable (s : List Char) : Prop where
  shaped : Mri.isShaped s = true
  noBackQuote : Grammar.backQuote ∉ s
  noComma : ',' ∉ Mri.nameSegment s

/-- A metric that is known by exactly one name, one that can be written. -/
inductive Metric.IsNamed : Metric → Prop where
  | publicName {name : String} (h : IsPublicName name.toList) : IsNamed (.ofPublicName name)
  | mri {mri : String} (h : Mri.IsWritable mri.toList) : IsNamed (.ofMri mri)

theorem IsPublicName.ne_nil {s : List Char} (h : IsPublicName s) : s ≠ [] := by
  obtain ⟨first, rest, rfl, hparts⟩ := h
  exact fun hnil => (hparts first (by simp)).1 (List.append_eq_nil_iff.1 hnil).1

theorem IsPublicName.chars {s : List Char} (h : IsPublicName s) :
    ∀ c ∈ s, Grammar.isPublicChar c = true ∨ c = '.' := by
  obtain ⟨first, rest, rfl, hparts⟩ := h
  intro c hc
  simp only [List.mem_append, List.mem_flatMap, List.mem_cons] at hc
  rcases hc with hc | ⟨part, hpart, rfl | hc⟩
  · exact .inl ((hparts first (by simp)).2 c hc)
  · exact .inr rfl
  · exact .inl ((hparts part (by simp [hpart])).2 c hc)

theorem IsPublicName.isNameChar {s : List Char} (h : IsPublicName s) :
    ∀ c ∈ s, Grammar.isNameChar c = true := by
  intro c hc
  rcases h.chars c hc with hc | rfl
  · exact Grammar.isNameChar_of_isFunctionChar (Grammar.isFunctionChar_of_isPublicChar hc)
  · decide

/-- Characters of public names are no blanks. -/
theorem IsPublicName.isAllBlank_eq {name : String} (h : IsPublicName name.toList) :
    Text.isAllBlank name = false := by
  obtain ⟨c, w, hname⟩ := List.exists_cons_of_ne_nil h.ne_nil
  have hc : Text.isBlank c = false :=
    Grammar.isBlank_of_isNameChar (h.isNameChar c (by rw [hname]; simp))
  rw [Text.isAllBlank, hname]
  simp [hc]

/-- Nothing but its shape is asked of a resource identifier. -/
theorem Metric.validate_ofMri {mri : String} :
    (ofMri mri).validate = .ok () ↔ Mri.isShaped mri.toList = true := by
  by_cases h : Mri.isShaped mri.toList = true
  · simp [validate, require, ofMri, empty, h, bind, Except.bind]
  · simp [validate, require, ofMri, empty, h, bind, Except.bind]

/-- A named metric passes its check. -/
theorem Metric.IsNamed.validate_eq {m : Metric} (h : m.IsNamed) : m.validate = .ok () := by
  cases h with
  | publicName h =>
    simp [Metric.validate, Metric.require, ofPublicName, empty, h.isAllBlank_eq, bind, Except.bind]
  | mri h => exact Metric.validate_ofMri.2 h.shaped

/-- A column whose name can be written. -/
structure Column.IsWritable (c : Column) : Prop where
  isName : Grammar.isName c.name.toList = true
  valid : c.validate = .ok ()

/-- A prefix pattern is a text without quotes that is not empty, and a star. -/
theorem isPrefixPattern_iff {s : List Char} :
    Grammar.isPrefixPattern s = true ↔
      ∃ stem, s = stem ++ ['*'] ∧ stem ≠ [] ∧ ∀ c ∈ stem, Grammar.isUnquoted c = true := by
  unfold Grammar.isPrefixPattern
  constructor
  · intro h
    split at h
    · rename_i stem hs
      obtain ⟨hne, hall⟩ := Bool.and_eq_true_iff.1 h
      refine ⟨stem.reverse, ?_, by simpa using hne, by simpa using hall⟩
      rw [← List.reverse_reverse s, hs, List.reverse_cons]
    · cases h
  · rintro ⟨stem, rfl, hne, hall⟩
    simp [hne]
    exact hall

/-! ## Parameters and conditions -/

/-- Neither NaN nor a number with a minus. -/
def Double.isUnsigned : Double → Bool
  | nan => false
  | infinite negative => !negative
  | finite negative _ => !negative

/-- Parameters have no sign: there is no minus in the grammar of parameters. -/
inductive Literal.IsUnsigned : Literal → Prop where
  | int {n : Int64} (h : 0 ≤ n) : IsUnsigned (.int n)
  | float {x : Double} (h : x.isUnsigned = true) : IsUnsigned (.float x)
  | string (s : String) : IsUnsigned (.string s)

theorem minValue_lt_of_nonneg {n : Int64} (h : 0 ≤ n) : Int64.minValue < n := by
  rw [Int64.le_iff_toInt_le] at h
  rw [Int64.lt_iff_toInt_lt, Int64.toInt_minValue]
  simp at h
  omega

/-- What the operators that can be written are written with. -/
inductive Comparison.Takes : Comparison → Literal → Prop where
  | exact {op : Comparison} {s : String} (hop : op = .eq ∨ op = .neq)
      (h : Grammar.isPrefixPattern s.toList = false) : Takes op (.string s)
  | pattern {op : Comparison} {s : String} (hop : op = .like ∨ op = .notLike)
      (h : Grammar.isPrefixPattern s.toList = true) : Takes op (.string s)
  | list {op : Comparison} {items : List String} (hop : op = .isIn ∨ op = .notIn)
      (h : items ≠ []) : Takes op (.ofStrings items)

/-- A condition on a tag. -/
inductive Condition.IsNormal : Condition → Prop where
  | mk {name : String} {op : Comparison} {value : Literal} (hname : Column.IsWritable ⟨name⟩)
      (hvalue : op.Takes value) : IsNormal (.ofColumn name op value)

/-- Conditions on tags, and groups of two members or more. -/
inductive Filter.IsNormal : Filter → Prop where
  | condition {c : Condition} (h : c.IsNormal) : IsNormal (.condition c)
  | group {op : Connective} {members : List Filter} (hlen : 2 ≤ members.length)
      (h : ∀ f ∈ members, IsNormal f) : IsNormal (.group op members)

/-- Filters and a grouping, each with at least one member if it is there. -/
structure IsSelection (filters : Option (List Filter)) (groupby : Option (List Column)) :
    Prop where
  filters_ne : filters ≠ some []
  filters_normal : ∀ f ∈ filters.getD [], f.IsNormal
  groupby_ne : groupby ≠ some []
  groupby_writable : ∀ c ∈ groupby.getD [], c.IsWritable

/-! ## Nodes -/

mutual

/-- A formula and all that is in it. -/
def Formula.nodes : Formula → List Operand
  | ⟨function, parameters, operands, filters, groupby⟩ =>
    .formula ⟨function, parameters, operands, filters, groupby⟩ :: Operand.nodesAll operands

/-- An operand and all that is in it, at every depth. -/
def Operand.nodes : Operand → List Operand
  | .formula f => f.nodes
  | .timeseries t => [.timeseries t]
  | .int n => [.int n]
  | .float x => [.float x]
  | .string s => [.string s]

/-- What is in operands, in order. -/
def Operand.nodesAll : List Operand → List Operand
  | [] => []
  | o :: rest => o.nodes ++ Operand.nodesAll rest

end

namespace Operand

theorem mem_nodesAll {n : Operand} {os : List Operand} :
    n ∈ nodesAll os ↔ ∃ o ∈ os, n ∈ o.nodes := by
  induction os with
  | nil => simp [nodesAll]
  | cons o rest ih => simp [nodesAll, ih]

@[simp] theorem mem_nodes_formula {n : Operand} {f : Formula} :
    n ∈ (Operand.formula f).nodes ↔ n = .formula f ∨ ∃ o ∈ f.operands, n ∈ o.nodes := by
  obtain ⟨function, parameters, operands, filters, groupby⟩ := f
  simp [nodes, Formula.nodes, mem_nodesAll]

theorem self_mem_nodes (o : Operand) : o ∈ o.nodes := by
  cases o <;> simp [nodes]
  exact (mem_nodes_formula (f := _)).2 (.inl rfl)

/-- Induction over operands: a formula has what its operands have. -/
theorem induction {motive : Operand → Prop}
    (formula : ∀ f : Formula, (∀ o ∈ f.operands, motive o) → motive (.formula f))
    (timeseries : ∀ t, motive (.timeseries t)) (int : ∀ n, motive (.int n))
    (float : ∀ x, motive (.float x)) (string : ∀ s, motive (.string s)) (o : Operand) :
    motive o := by
  match o with
  | .formula ⟨function, parameters, operands, filters, groupby⟩ =>
    refine formula _ fun o ho => ?_
    have := List.sizeOf_lt_of_mem ho
    exact induction formula timeseries int float string o
  | .timeseries t => exact timeseries t
  | .int n => exact int n
  | .float x => exact float x
  | .string s => exact string s
termination_by sizeOf o
decreasing_by
  simp_wf
  dsimp only at this
  omega

theorem nodesAll_eq (os : List Operand) : nodesAll os = os.flatMap nodes := by
  induction os with
  | nil => rfl
  | cons o others ih => rw [nodesAll, ih, List.flatMap_cons]

theorem nodes_formula (f : Formula) :
    (Operand.formula f).nodes = .formula f :: f.operands.flatMap nodes := by
  obtain ⟨function, parameters, operands, filters, groupby⟩ := f
  rw [nodes, Formula.nodes, nodesAll_eq]

/-- What changes operands one by one changes nodes one by one. -/
theorem nodes_map {g : Operand → Operand}
    (hformula : ∀ f, ∃ f', g (.formula f) = .formula f' ∧ f'.operands = f.operands.map g)
    (hleaf : ∀ o, (∀ f, o ≠ .formula f) → o.nodes = [o] ∧ (g o).nodes = [g o]) (o : Operand) :
    (g o).nodes = o.nodes.map g := by
  induction o using Operand.induction with
  | formula f ih =>
    obtain ⟨f', hf', hos⟩ := hformula f
    rw [nodes_formula, List.map_cons, List.map_flatMap, hf', nodes_formula, hos, List.flatMap_map]
    exact congrArg _ (List.flatMap_congr ih)
  | timeseries t =>
    obtain ⟨hself, hg⟩ := hleaf (.timeseries t) (by simp)
    rw [hself, hg, List.map_singleton]
  | int n =>
    obtain ⟨hself, hg⟩ := hleaf (.int n) (by simp)
    rw [hself, hg, List.map_singleton]
  | float x =>
    obtain ⟨hself, hg⟩ := hleaf (.float x) (by simp)
    rw [hself, hg, List.map_singleton]
  | string s =>
    obtain ⟨hself, hg⟩ := hleaf (.string s) (by simp)
    rw [hself, hg, List.map_singleton]

end Operand

/-! ## The form of every node -/

/-- The parameters of a curried call, if there are any. -/
def AreUnsigned (parameters : Option (List Literal)) : Prop :=
  ∀ p ∈ parameters.getD [], p.IsUnsigned

/-- The form that reading gives to a metric under its aggregate. -/
structure Timeseries.IsNormal (t : Timeseries) : Prop where
  metric : t.metric.IsNamed
  aggregate : IsCallName t.aggregate.toList
  parameters : AreUnsigned t.parameters
  selection : IsSelection t.filters t.groupby

/-- The form that reading gives to the head of a formula, with what follows it. -/
structure Formula.IsNormal (f : Formula) : Prop where
  function : IsCallName f.function.toList
  parameters : AreUnsigned f.parameters
  operands : f.operands ≠ []
  selection : IsSelection f.filters f.groupby

/-- The form that reading gives to a node, whatever is below it. -/
def Operand.HasForm : Operand → Prop
  | .formula f => f.IsNormal
  | .timeseries t => t.IsNormal
  | .int n => Int64.minValue < n
  | .float x => x ≠ .nan
  | .string _ => True

/-- The parameters at a node, if it is a curried call. -/
def Operand.parameters : Operand → Option (List Literal)
  | .formula f => f.parameters
  | .timeseries t => t.parameters
  | _ => none

/-- The form of a series with any parameters. -/
structure Timeseries.IsShaped (t : Timeseries) : Prop where
  metric : t.metric.IsNamed
  aggregate : IsCallName t.aggregate.toList
  parameters : areParameters t.parameters = true
  selection : IsSelection t.filters t.groupby

/-- The form of the head of a formula with any parameters, and of what follows it. -/
structure Formula.IsShaped (f : Formula) : Prop where
  function : IsCallName f.function.toList
  parameters : areParameters f.parameters = true
  operands : f.operands ≠ []
  selection : IsSelection f.filters f.groupby

/-- The form of a node with any parameters, whatever is below it. -/
def Operand.HasShape : Operand → Prop
  | .formula f => f.IsShaped
  | .timeseries t => t.IsShaped
  | .int n => Int64.minValue < n
  | _ => True

theorem AreUnsigned.areParameters_eq {parameters : Option (List Literal)}
    (h : AreUnsigned parameters) : areParameters parameters = true := by
  refine List.all_eq_true.2 fun p hp => ?_
  cases h p hp <;> rfl

theorem Timeseries.IsNormal.isShaped {t : Timeseries} (h : t.IsNormal) : t.IsShaped :=
  ⟨h.metric, h.aggregate, h.parameters.areParameters_eq, h.selection⟩

theorem Formula.IsNormal.isShaped {f : Formula} (h : f.IsNormal) : f.IsShaped :=
  ⟨h.function, h.parameters.areParameters_eq, h.operands, h.selection⟩

theorem Operand.HasForm.hasShape {n : Operand} (h : n.HasForm) : n.HasShape := by
  cases n with
  | formula f => exact Formula.IsNormal.isShaped h
  | timeseries t => exact Timeseries.IsNormal.isShaped h
  | int n => exact h
  | float x => trivial
  | string s => trivial

/-- Every node has the form that reading gives it. -/
def Operand.IsNormal (o : Operand) : Prop := ∀ n ∈ o.nodes, n.HasForm

/-- Every node has the form that reading gives it. -/
def Query.IsNormal (q : Query) : Prop := q.toOperand.IsNormal

namespace Operand

theorem isNormal_formula {f : Formula} :
    (Operand.formula f).IsNormal ↔ f.IsNormal ∧ ∀ o ∈ f.operands, o.IsNormal := by
  simp only [IsNormal, mem_nodes_formula]
  constructor
  · intro h
    exact ⟨h _ (.inl rfl), fun o ho n hn => h n (.inr ⟨o, ho, hn⟩)⟩
  · rintro ⟨hf, hos⟩ n (rfl | ⟨o, ho, hn⟩)
    · exact hf
    · exact hos o ho n hn

@[simp] theorem isNormal_timeseries {t : Timeseries} :
    (Operand.timeseries t).IsNormal ↔ t.IsNormal := by
  simp [IsNormal, nodes, HasForm]

@[simp] theorem isNormal_int {n : Int64} :
    (Operand.int n).IsNormal ↔ Int64.minValue < n := by
  simp [IsNormal, nodes, HasForm]

@[simp] theorem isNormal_float {x : Double} : (Operand.float x).IsNormal ↔ x ≠ .nan := by
  simp [IsNormal, nodes, HasForm]

@[simp] theorem isNormal_string (s : String) : (Operand.string s).IsNormal := by
  simp [IsNormal, nodes, HasForm]

end Operand

end MetricQuery
