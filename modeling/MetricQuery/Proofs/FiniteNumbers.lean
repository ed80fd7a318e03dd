import MetricQuery.Proofs.Contents
import MetricQuery.Proofs.Validity

/-!
# Numbers in a query that passes its check

Numbers stand in three places of a query: as operands, in filters, and as the parameters of a
curried call.  The check of a query looks at the numbers of the first two places, and only at the
kind of the third.

* `Literal.floats`, `Expr.floats`, `Condition.floats` : the floats of a node, at every depth;
* `Query.floats`          : all floats of a query, and `Query.curriedFloats` those of the third place;
* `Literal.finite_of_validate`, `Filter.finite_of_validate` : what a check makes sure of;
* `Query.mapCurried`      : the query with other floats in the third place;
* `Query.validate_mapCurried` : no check sees the difference;
* `Query.finite_unless_curried`: a checked query has finite numbers, except for the third place.
-/

set_option autoImplicit false

namespace MetricQuery

/-! ## Floats -/

mutual

/-- The floats of a literal, inside every array and every tuple. -/
def Literal.floats : Literal → List Double
  | .float x => [x]
  | .array items => Literal.floatsAll items
  | .tuple items => Literal.floatsAll items
  | _ => []

/-- The floats of literals, in order. -/
def Literal.floatsAll : List Literal → List Double
  | [] => []
  | v :: rest => v.floats ++ Literal.floatsAll rest

end

mutual

/-- The floats of an expression: in its literals, its initializers and its parameters. -/
def Expr.floats : Expr → List Double
  | .column _ => []
  | .literal v => v.floats
  | .call _ initializers parameters _ =>
    Literal.floatsAll (initializers.getD []) ++ Expr.floatsAll parameters

/-- The floats of expressions, in order. -/
def Expr.floatsAll : List Expr → List Double
  | [] => []
  | e :: rest => e.floats ++ Expr.floatsAll rest

end

/-- The floats on both sides of a condition. -/
def Condition.floats (c : Condition) : List Double :=
  c.lhs.floats ++ c.rhs.toList.flatMap Expr.floats

/-- The floats in the conditions of a filter, inside every group. -/
def Filter.floats (f : Filter) : List Double := f.conditions.flatMap Condition.floats

namespace Operand

/-- A node that is a number itself. -/
def ownFloats : Operand → List Double
  | .float x => [x]
  | _ => []

/-- The floats in the filters of a node. -/
def filterFloats (n : Operand) : List Double := n.filters.flatMap Filter.floats

/-- The floats among the parameters of a node, if it is a curried call. -/
def curriedFloats (n : Operand) : List Double := Literal.floatsAll (n.parameters.getD [])

end Operand

namespace Query

/-- The floats among the parameters of all curried calls. -/
def curriedFloats (q : Query) : List Double := q.toOperand.nodes.flatMap Operand.curriedFloats

/-- The floats of all operands and all filters. -/
def checkedFloats (q : Query) : List Double :=
  q.toOperand.nodes.flatMap fun n => n.ownFloats ++ n.filterFloats

/-- All floats of a query: of operands, in filters and of curried calls, at every node. -/
def floats (q : Query) : List Double :=
  q.toOperand.nodes.flatMap fun n => n.ownFloats ++ n.filterFloats ++ n.curriedFloats

theorem forall_mem_floats {p : Double → Prop} {q : Query} :
    (∀ x ∈ q.floats, p x) ↔ (∀ x ∈ q.checkedFloats, p x) ∧ ∀ x ∈ q.curriedFloats, p x := by
  simp only [floats, checkedFloats, curriedFloats, List.forall_mem_flatMap, List.forall_mem_append]
  exact ⟨fun h => ⟨fun n hn => (h n hn).1, fun n hn => (h n hn).2⟩,
    fun h n hn => ⟨h.1 n hn, h.2 n hn⟩⟩

end Query

/-! ## What a check makes sure of -/

mutual

/-- **A literal that passes its check holds finite numbers only.** -/
theorem Literal.finite_of_validate : ∀ v : Literal, v.validate = .ok () →
    ∀ x ∈ v.floats, x.isFinite = true
  | .float x, h => by
    rw [Literal.floats, List.forall_mem_singleton]
    exact Literal.validate_float_eq_ok.1 h
  | .array items, h => by
    rw [Literal.floats]
    exact Literal.finite_of_validateAll items (Literal.validate_array_eq_ok.1 h).1
  | .tuple items, h => by
    rw [Literal.floats]
    exact Literal.finite_of_validateAll items (Literal.validate_tuple_eq_ok.1 h)
  | .null, _ | .bool _, _ | .int _, _ | .string _, _ | .date _, _ | .moment _, _ => by
    simp [Literal.floats]

/-- Literals that pass their checks hold finite numbers only. -/
theorem Literal.finite_of_validateAll : ∀ items : List Literal,
    (∀ v ∈ items, v.validate = .ok ()) → ∀ x ∈ Literal.floatsAll items, x.isFinite = true
  | [], _ => by simp [Literal.floatsAll]
  | v :: rest, h => by
    obtain ⟨hv, hrest⟩ := List.forall_mem_cons.1 h
    rw [Literal.floatsAll, List.forall_mem_append]
    exact ⟨Literal.finite_of_validate v hv, Literal.finite_of_validateAll rest hrest⟩

end

mutual

/-- **An expression that passes its check holds finite numbers only.** -/
theorem Expr.finite_of_validate : ∀ e : Expr, e.validate = .ok () →
    ∀ x ∈ e.floats, x.isFinite = true
  | .column c, _ => by simp [Expr.floats]
  | .literal v, h => by
    rw [Expr.validate] at h
    rw [Expr.floats]
    exact v.finite_of_validate h
  | .call function initializers parameters label, h => by
    obtain ⟨-, -, hinitializers, hparameters⟩ := Expr.validate_call_eq_ok.1 h
    rw [Expr.floats, List.forall_mem_append]
    exact ⟨Literal.finite_of_validateAll _ hinitializers,
      Expr.finite_of_validateAll parameters hparameters⟩

/-- Expressions that pass their checks hold finite numbers only. -/
theorem Expr.finite_of_validateAll : ∀ es : List Expr,
    (∀ e ∈ es, e.validate = .ok ()) → ∀ x ∈ Expr.floatsAll es, x.isFinite = true
  | [], _ => by simp [Expr.floatsAll]
  | e :: rest, h => by
    obtain ⟨he, hrest⟩ := List.forall_mem_cons.1 h
    rw [Expr.floatsAll, List.forall_mem_append]
    exact ⟨Expr.finite_of_validate e he, Expr.finite_of_validateAll rest hrest⟩

end

theorem Condition.finite_of_validate {c : Condition} (h : c.validate = .ok ()) :
    ∀ x ∈ c.floats, x.isFinite = true := by
  obtain ⟨-, hlhs, -, hrhs⟩ := Condition.validate_eq_ok.1 h
  intro x hx
  rcases List.mem_append.1 hx with hx | hx
  · exact c.lhs.finite_of_validate hlhs x hx
  · obtain ⟨rhs, hmem, hx⟩ := List.mem_flatMap.1 hx
    exact rhs.finite_of_validate (hrhs rhs (by simpa using hmem)) x hx

/-- The conditions of a filter that passes its check pass theirs, inside every group. -/
theorem Filter.validate_conditions {f : Filter} (h : f.validate = .ok ()) :
    ∀ c ∈ f.conditions, c.validate = .ok () := by
  induction f using Filter.induction with
  | condition c =>
    rw [Filter.validate] at h
    simpa [Filter.conditions] using h
  | group op members ih =>
    intro c hc
    rw [Filter.conditions] at hc
    obtain ⟨f, hf, hc⟩ := Filter.mem_conditionsAll.1 hc
    exact ih f hf ((Filter.validate_group_eq_ok.1 h).2 f hf) c hc

/-- **A filter that passes its check holds finite numbers only.** -/
theorem Filter.finite_of_validate {f : Filter} (h : f.validate = .ok ()) :
    ∀ x ∈ f.floats, x.isFinite = true := by
  intro x hx
  obtain ⟨c, hc, hx⟩ := List.mem_flatMap.1 hx
  exact Condition.finite_of_validate (Filter.validate_conditions h c hc) x hx

namespace Operand

/-- The filters of a node that passes pass their own checks. -/
theorem Passes.validate_filters {n : Operand} (h : n.Passes) :
    ∀ f ∈ n.filters, f.validate = .ok () := by
  cases n with
  | formula f => exact (validateSelection_eq_ok.1 h.2).1
  | timeseries t => exact (validateSelection_eq_ok.1 (Timeseries.validate_eq_ok.1 h).2.2.2.2).1
  | _ => simp [filters]

/-- The parameters of a node that passes are numbers and texts. -/
theorem Passes.areParameters {n : Operand} (h : n.Passes) :
    areParameters n.parameters = true := by
  cases n with
  | formula f => exact (Formula.validateHead_eq_ok.1 h.1).2.2.2
  | timeseries t => exact (Timeseries.validate_eq_ok.1 h).2.2.2.1
  | _ => rfl

theorem Passes.finite {n : Operand} (h : n.Passes) :
    ∀ x ∈ n.ownFloats ++ n.filterFloats, x.isFinite = true := by
  rw [List.forall_mem_append]
  constructor
  · cases n with
    | float x => simpa [ownFloats, Passes] using h
    | _ => simp [ownFloats]
  · intro x hx
    obtain ⟨f, hf, hx⟩ := List.mem_flatMap.1 hx
    exact Filter.finite_of_validate (h.validate_filters f hf) x hx

end Operand

/-! ## What no check sees -/

section

variable (g : Double → Double)

/-- The literal with another float, if it is one. -/
def Literal.mapFloat : Literal → Literal
  | .float x => .float (g x)
  | other => other

/-- Parameters with other floats. -/
def mapParameters (parameters : Option (List Literal)) : Option (List Literal) :=
  parameters.map fun ps => ps.map (Literal.mapFloat g)

/-- The series with other floats among its parameters. -/
def Timeseries.mapCurried (t : Timeseries) : Timeseries :=
  { t with parameters := mapParameters g t.parameters }

mutual

/-- The formula with other floats among the parameters of all its curried calls. -/
def Formula.mapCurried : Formula → Formula
  | ⟨function, parameters, operands, filters, groupby⟩ =>
    ⟨function, mapParameters g parameters, Operand.mapCurriedAll operands, filters, groupby⟩

/-- The operand with other floats among the parameters of all its curried calls. -/
def Operand.mapCurried : Operand → Operand
  | .formula f => .formula f.mapCurried
  | .timeseries t => .timeseries (t.mapCurried g)
  | other => other

/-- Operands with other floats among the parameters of all their curried calls. -/
def Operand.mapCurriedAll : List Operand → List Operand
  | [] => []
  | o :: others => o.mapCurried :: Operand.mapCurriedAll others

end

/-- The query with other floats among the parameters of all its curried calls. -/
def Query.mapCurried : Query → Query
  | .timeseries t => .timeseries (t.mapCurried g)
  | .formula f => .formula (f.mapCurried g)

/-- A check asks of the parameters of a curried call only what kind they are. -/
theorem areParameters_mapParameters (parameters : Option (List Literal)) :
    areParameters (mapParameters g parameters) = areParameters parameters := by
  have hkind (v : Literal) : (v.mapFloat g).isParameter = v.isParameter := by
    cases v <;> rfl
  cases parameters with
  | none => rfl
  | some ps => simp [areParameters, mapParameters, Function.comp_def, hkind]

namespace Operand

theorem mapCurriedAll_eq (os : List Operand) : mapCurriedAll g os = os.map (mapCurried g) := by
  induction os with
  | nil => simp [mapCurriedAll]
  | cons o others ih => rw [mapCurriedAll, ih, List.map_cons]

theorem mapCurried_formula (f : Formula) : (Operand.formula f).mapCurried g = .formula
    ⟨f.function, mapParameters g f.parameters, f.operands.map (mapCurried g), f.filters,
      f.groupby⟩ := by
  obtain ⟨function, parameters, operands, filters, groupby⟩ := f
  rw [mapCurried, Formula.mapCurried, mapCurriedAll_eq]

theorem nodes_mapCurried (o : Operand) : (o.mapCurried g).nodes = o.nodes.map (mapCurried g) := by
  refine nodes_map (fun f => ⟨_, mapCurried_formula g f, rfl⟩) (fun o ho => ?_) o
  cases o with
  | formula f => exact absurd rfl (ho f)
  | _ => simp [mapCurried, nodes]

/-- Operands that are checked alike are so in a list. -/
theorem validateAll_map {h : Operand → Operand} {os : List Operand}
    (heq : ∀ o ∈ os, (h o).validate = o.validate) : validateAll (os.map h) = validateAll os := by
  induction os with
  | nil => rfl
  | cons o os ih =>
    obtain ⟨ho, hos⟩ := List.forall_mem_cons.1 heq
    rw [List.map_cons, validateAll, validateAll, ho, ih hos]

/-- **The floats among the parameters of curried calls make no difference to a check.** -/
theorem validate_mapCurried (o : Operand) : (o.mapCurried g).validate = o.validate := by
  induction o using Operand.induction with
  | formula f ih =>
    rw [mapCurried_formula]
    obtain ⟨function, parameters, operands, filters, groupby⟩ := f
    rw [validate, Formula.validate, validate, Formula.validate, validateAll_map ih,
      List.length_map, Formula.validateHead, areParameters_mapParameters, ← Formula.validateHead]
  | timeseries t =>
    rw [mapCurried, validate, validate, Timeseries.validate, Timeseries.mapCurried]
    dsimp only
    rw [areParameters_mapParameters]
    rfl
  | _ => simp [mapCurried]

theorem parameters_mapCurried (n : Operand) :
    (n.mapCurried g).parameters = mapParameters g n.parameters := by
  cases n with
  | formula f => rw [mapCurried_formula]; rfl
  | timeseries t => rw [mapCurried]; rfl
  | _ => simp [mapCurried, parameters, mapParameters]

/-- The parameters of a node that passes are not nested, so that all their floats are changed. -/
theorem curriedFloats_mapCurried {n : Operand} (h : areParameters n.parameters = true) :
    (n.mapCurried g).curriedFloats = n.curriedFloats.map g := by
  rw [curriedFloats, parameters_mapCurried, curriedFloats]
  cases hps : n.parameters with
  | none => rfl
  | some ps =>
    rw [hps, areParameters, Option.getD_some] at h
    rw [mapParameters, Option.map_some, Option.getD_some, Option.getD_some]
    clear hps
    induction ps with
    | nil => rfl
    | cons v ps ih =>
      rw [List.all_cons, Bool.and_eq_true] at h
      rw [List.map_cons, Literal.floatsAll, Literal.floatsAll, List.map_append, ih h.2]
      congr 1
      cases v with
      | int n => rfl
      | float x => rfl
      | string s => rfl
      | _ => cases h.1

end Operand

namespace Query

theorem toOperand_mapCurried (q : Query) :
    (q.mapCurried g).toOperand = q.toOperand.mapCurried g := by
  cases q <;> simp [mapCurried, toOperand, Operand.mapCurried]

theorem validate_mapCurried (q : Query) : (q.mapCurried g).validate = q.validate := by
  rw [validate_eq_toOperand, toOperand_mapCurried, Operand.validate_mapCurried,
    validate_eq_toOperand]

theorem curriedFloats_mapCurried {q : Query} (h : q.validate = .ok ()) :
    (q.mapCurried g).curriedFloats = q.curriedFloats.map g := by
  rw [validate_eq_toOperand] at h
  rw [curriedFloats, toOperand_mapCurried, Operand.nodes_mapCurried, List.flatMap_map,
    curriedFloats, List.map_flatMap]
  apply List.flatMap_congr
  intro n hn
  exact Operand.curriedFloats_mapCurried g (Operand.validate_eq_ok.1 h n hn).areParameters

end Query

end

/-! ## Queries -/

namespace Query

/-- **A query that passes its check has finite numbers, except among the parameters of curried
calls.**  Its operands and its filters are finite at every depth; so all its numbers are finite
exactly if those parameters are; and these may be any floats, as no check can tell. -/
theorem finite_unless_curried {q : Query} (h : q.validate = .ok ()) :
    (∀ x ∈ q.checkedFloats, x.isFinite = true) ∧
      ((∀ x ∈ q.floats, x.isFinite = true) ↔ ∀ x ∈ q.curriedFloats, x.isFinite = true) ∧
      ∀ g : Double → Double, (q.mapCurried g).validate = .ok () ∧
        (q.mapCurried g).curriedFloats = q.curriedFloats.map g := by
  have hchecked : ∀ x ∈ q.checkedFloats, x.isFinite = true := by
    intro x hx
    rw [validate_eq_toOperand] at h
    obtain ⟨n, hn, hx⟩ := List.mem_flatMap.1 hx
    exact (Operand.validate_eq_ok.1 h n hn).finite x hx
  refine ⟨hchecked, ?_, fun g => ⟨?_, curriedFloats_mapCurried g h⟩⟩
  · rw [forall_mem_floats]
    exact and_iff_right hchecked
  · rw [validate_mapCurried, h]

/-- A quantile may be asked for at infinity. -/
theorem finite_unless_curried_quantile :
    let level : Query := .timeseries ⟨.ofPublicName "a", "quantile",
      some [.float (.infinite false)], none, none⟩
    level.validate = .ok () ∧ level.floats = [.infinite false] ∧
      ((∀ x ∈ level.checkedFloats, x.isFinite = true) ∧
        ((∀ x ∈ level.floats, x.isFinite = true) ↔
          ∀ x ∈ level.curriedFloats, x.isFinite = true) ∧
        ∀ g : Double → Double, (level.mapCurried g).validate = .ok () ∧
          (level.mapCurried g).curriedFloats = level.curriedFloats.map g) ∧
      ¬ ∀ x ∈ level.floats, x.isFinite = true := by
  intro level
  have hvalid : level.validate = .ok () := by rfl
  refine ⟨hvalid, rfl, finite_unless_curried hvalid, ?_⟩
  intro h
  cases h _ (List.mem_singleton_self _)

end Query

end MetricQuery
