import MetricQuery.Proofs.Outcome

/-!
# What checks ask

A check is a sequence of demands, and passes exactly if each of them is met.  Each check of the
model has one lemma here that says what it asks; what it is made of is not opened elsewhere.

* `demand_eq_ok`, `refuse_eq_ok`, `seq_eq_ok` : one demand, one fault, and one check behind another;
* `Literal.AreOneFamily`         : literals that an array may hold;
* `Literal.validateArray_eq_ok`  : the items of an array pass, and are of one family;
* `Expr.validate_call_eq_ok`, `Condition.validate_eq_ok`, `Filter.validate_group_eq_ok`;
* `Timeseries.validate_eq_ok`, `Formula.validate_eq_ok`.
-/

set_option autoImplicit false

namespace MetricQuery

open Outcome

/-! ## Sequences of demands -/

section

variable {p : Prop} [Decidable p] {cause : Invalid} {x y : Except Invalid Unit}

/-- A check goes on where a demand is met. -/
theorem demand_eq_ok :
    (if p then (do Except.ok (); x) else (do Except.error cause; x)) = .ok () ↔
      p ∧ x = .ok () := by
  by_cases hp : p <;> simp [hp, bind, Except.bind]

/-- A check goes on where there is no fault. -/
theorem refuse_eq_ok :
    (if p then (do Except.error cause; x) else (do Except.ok (); x)) = .ok () ↔
      ¬ p ∧ x = .ok () := by
  by_cases hp : p <;> simp [hp, bind, Except.bind]

theorem lastDemand_eq_ok : (if p then Except.ok () else .error cause) = .ok () ↔ p := by
  by_cases hp : p <;> simp [hp]

theorem seq_eq_ok : (do x; y) = .ok () ↔ x = .ok () ∧ y = .ok () := by
  rw [bind_eq_ok]
  exact ⟨fun ⟨_, hx, hy⟩ => ⟨hx, hy⟩, fun ⟨hx, hy⟩ => ⟨(), hx, hy⟩⟩

/-- A check that goes through a list of members passes if every member does. -/
theorem all_eq_ok {α : Type} {check : α → Except Invalid Unit} {go : List α → Except Invalid Unit}
    (hnil : go [] = .ok ()) (hcons : ∀ a as, go (a :: as) = (do check a; go as)) {as : List α} :
    go as = .ok () ↔ ∀ a ∈ as, check a = .ok () := by
  induction as with
  | nil => simp [hnil]
  | cons a as ih => rw [hcons, seq_eq_ok, ih, List.forall_mem_cons]

end

/-! ## Literals -/

namespace Literal

/-- The literals of a family; the null is among them, whatever the family. -/
def IsOf (family : Family) (v : Literal) : Prop := ∀ own ∈ v.family?, own = family

/-- Literals that an array may hold: there is a family that all of them are of. -/
def AreOneFamily (items : List Literal) : Prop := ∃ family, ∀ v ∈ items, v.IsOf family

variable {v : Literal} {items : List Literal} {seen : Option Family}

/-- An item has to be of the family that was seen first, and is itself seen behind it. -/
theorem validateArray_cons :
    validateArray seen (v :: items) = .ok () ↔
      v.validate = .ok () ∧ (∀ other ∈ seen, v.IsOf other) ∧
        validateArray (seen.or v.family?) items = .ok () := by
  conv_lhs => unfold validateArray
  rw [seq_eq_ok]
  refine and_congr_right fun _ => ?_
  cases hv : v.family? with
  | none => simp [IsOf, hv]
  | some own =>
    cases seen with
    | none => simp
    | some other =>
      by_cases h : other = own
      · simp [IsOf, hv, h]
      · simp [IsOf, hv, h, Ne.symm h]

/-- **An array passes if its items do and are of one family**, that of the items seen before. -/
theorem validateArray_eq_ok :
    validateArray seen items = .ok () ↔
      (∀ v ∈ items, v.validate = .ok ()) ∧
        ∃ family, (∀ other ∈ seen, other = family) ∧ ∀ v ∈ items, v.IsOf family := by
  induction items generalizing seen with
  | nil =>
    refine iff_of_true (by rw [validateArray]) ⟨by simp, ?_⟩
    cases seen with
    | none => exact ⟨.bool, by simp⟩
    | some other => exact ⟨other, by simp⟩
  | cons v rest ih =>
    rw [validateArray_cons, ih, List.forall_mem_cons]
    have hseen (family : Family) :
        (∀ other ∈ (seen.or v.family?), other = family) ∧ (∀ other ∈ seen, v.IsOf other) ↔
          (∀ other ∈ seen, other = family) ∧ v.IsOf family := by
      cases seen with
      | none => simp [IsOf]
      | some other =>
        simp only [Option.some_or, Option.mem_some_iff, forall_eq']
        constructor
        · rintro ⟨rfl, h⟩
          exact ⟨rfl, h⟩
        · rintro ⟨rfl, h⟩
          exact ⟨rfl, h⟩
    constructor
    · rintro ⟨hv, hof, hrest, family, hfamily, hall⟩
      obtain ⟨hfamily, hof⟩ := (hseen family).1 ⟨hfamily, hof⟩
      exact ⟨⟨hv, hrest⟩, family, hfamily, List.forall_mem_cons.2 ⟨hof, hall⟩⟩
    · rintro ⟨⟨hv, hrest⟩, family, hfamily, hall⟩
      obtain ⟨hof, hall⟩ := List.forall_mem_cons.1 hall
      obtain ⟨hfamily, hof⟩ := (hseen family).2 ⟨hfamily, hof⟩
      exact ⟨hv, hof, hrest, family, hfamily, hall⟩

/-- The only fault of an array whose items pass is that they are of several families. -/
theorem validateArray_eq_error {cause : Invalid} (h : ∀ v ∈ items, v.validate = .ok ())
    (herror : validateArray seen items = .error cause) : cause = .mixedArray := by
  induction items generalizing seen with
  | nil => simp [validateArray] at herror
  | cons v rest ih =>
    obtain ⟨hv, hrest⟩ := List.forall_mem_cons.1 h
    unfold validateArray at herror
    rw [bind_of_ok _ hv] at herror
    split at herror
    · exact ih hrest herror
    · exact ih hrest herror
    · split at herror
      · exact ih hrest herror
      · cases herror
        rfl

theorem validate_array_eq_ok :
    (array items).validate = .ok () ↔ (∀ v ∈ items, v.validate = .ok ()) ∧ AreOneFamily items := by
  rw [validate, validateArray_eq_ok]
  simp [AreOneFamily]

theorem validate_tuple_eq_ok :
    (tuple items).validate = .ok () ↔ ∀ v ∈ items, v.validate = .ok () := by
  rw [validate]
  exact all_eq_ok (by rw [validateTuple]) fun _ _ => by rw [validateTuple]

theorem validate_float_eq_ok {x : Double} : (float x).validate = .ok () ↔ x.isFinite = true := by
  rw [validate]
  exact lastDemand_eq_ok

end Literal

/-! ## Expressions and conditions -/

namespace Expr

theorem validateAll_eq_ok {es : List Expr} :
    validateAll es = .ok () ↔ ∀ e ∈ es, e.validate = .ok () :=
  all_eq_ok (by rw [validateAll]) fun _ _ => by rw [validateAll]

/-- A call has a name of the right form and an alias of the right form, if it has one; what it is
called with passes. -/
theorem validate_call_eq_ok {function : String} {initializers : Option (List Literal)}
    {parameters : List Expr} {label : Option String} :
    (call function initializers parameters label).validate = .ok () ↔
      isFunctionName function.toList = true ∧ (∀ name ∈ label, isAlias name.toList = true) ∧
        (∀ v ∈ initializers.getD [], v.validate = .ok ()) ∧
        ∀ e ∈ parameters, e.validate = .ok () := by
  have halias : validateAlias function label = .ok () ↔
      ∀ name ∈ label, isAlias name.toList = true := by
    cases label with
    | none => simp [validateAlias]
    | some name => simp [validateAlias]
  rw [validate, demand_eq_ok, seq_eq_ok, seq_eq_ok, halias, Invalid.checkAll_eq_ok_iff,
    validateAll_eq_ok]

end Expr

/-- A condition is not about a literal, and has a right-hand side exactly if its operator takes
one; both sides pass. -/
theorem Condition.validate_eq_ok {c : Condition} :
    c.validate = .ok () ↔
      (∀ v, c.lhs ≠ .literal v) ∧ c.lhs.validate = .ok () ∧ c.rhs.isSome = !c.op.isUnary ∧
        ∀ rhs ∈ c.rhs, rhs.validate = .ok () := by
  obtain ⟨lhs, op, rhs⟩ := c
  cases lhs with
  | literal v => simp [validate]
  | _ =>
    rw [validate]
    dsimp only
    rw [seq_eq_ok]
    cases rhs <;> cases op.isUnary <;> simp

/-! ## Filters -/

namespace Filter

theorem validateAll_eq_ok {fs : List Filter} :
    validateAll fs = .ok () ↔ ∀ f ∈ fs, f.validate = .ok () :=
  all_eq_ok (by rw [validateAll]) fun _ _ => by rw [validateAll]

theorem validate_group_eq_ok {op : Connective} {members : List Filter} :
    (group op members).validate = .ok () ↔
      2 ≤ members.length ∧ ∀ f ∈ members, f.validate = .ok () := by
  rw [validate, refuse_eq_ok, validateAll_eq_ok, Nat.not_lt]

end Filter

/-! ## Queries -/

theorem validateSelection_eq_ok {filters : Option (List Filter)}
    {groupby : Option (List Column)} :
    validateSelection filters groupby = .ok () ↔
      (∀ f ∈ filters.getD [], f.validate = .ok ()) ∧
        ∀ c ∈ groupby.getD [], c.validate = .ok () := by
  rw [validateSelection, seq_eq_ok, Filter.validateAll_eq_ok, Invalid.checkAll_eq_ok_iff]

theorem Timeseries.validate_eq_ok {t : Timeseries} :
    t.validate = .ok () ↔
      t.metric.validate = .ok () ∧ t.hasAggregate = true ∧ t.aggregate ≠ "" ∧
        areParameters t.parameters = true ∧ validateSelection t.filters t.groupby = .ok () := by
  unfold validate
  rw [seq_eq_ok, demand_eq_ok, refuse_eq_ok, demand_eq_ok, String.isEmpty_iff]

/-- Where all else is in order, the filters and the grouping are left to be checked. -/
theorem Timeseries.validate_eq_selection {t : Timeseries} (hmetric : t.metric.validate = .ok ())
    (hagg : t.hasAggregate = true) (hempty : t.aggregate ≠ "")
    (hparameters : areParameters t.parameters = true) :
    t.validate = validateSelection t.filters t.groupby := by
  rw [ne_eq, ← String.isEmpty_iff] at hempty
  unfold validate
  rw [bind_of_ok _ hmetric]
  dsimp only
  rw [if_pos hagg, if_neg hempty, if_pos hparameters]
  rfl

theorem Formula.validateHead_eq_ok {function : String} {parameters : Option (List Literal)}
    {count : Nat} :
    validateHead function parameters count = .ok () ↔
      function ≠ "" ∧ count ≠ 0 ∧ ((ArithmeticOp.ofName? function).isSome = true → count = 2) ∧
        areParameters parameters = true := by
  unfold validateHead
  rw [refuse_eq_ok, refuse_eq_ok, refuse_eq_ok, lastDemand_eq_ok, String.isEmpty_iff]
  simp only [Bool.and_eq_true, bne_iff_ne, not_and, not_not, ne_eq]

theorem Operand.validateAll_eq_ok {os : List Operand} :
    validateAll os = .ok () ↔ ∀ o ∈ os, o.validate = .ok () :=
  all_eq_ok (by rw [validateAll]) fun _ _ => by rw [validateAll]

/-- Where all else is in order, the filters and the grouping are left to be checked. -/
theorem Formula.validate_eq_selection {f : Formula}
    (hhead : validateHead f.function f.parameters f.operands.length = .ok ())
    (hoperands : ∀ o ∈ f.operands, o.validate = .ok ()) :
    f.validate = validateSelection f.filters f.groupby := by
  obtain ⟨function, parameters, operands, filters, groupby⟩ := f
  rw [validate, bind_of_ok _ hhead, bind_of_ok _ (Operand.validateAll_eq_ok.2 hoperands)]

theorem Formula.validate_eq_ok {f : Formula} :
    f.validate = .ok () ↔
      validateHead f.function f.parameters f.operands.length = .ok () ∧
        (∀ o ∈ f.operands, o.validate = .ok ()) ∧
        validateSelection f.filters f.groupby = .ok () := by
  obtain ⟨function, parameters, operands, filters, groupby⟩ := f
  rw [validate, seq_eq_ok, seq_eq_ok, Operand.validateAll_eq_ok]

end MetricQuery
