import Mathlib.Order.WithBot
import MetricQuery.Proofs.CollapseExact

/-!
# What equality sees

Two values are equal if nothing but aliases, the signs of zeros and the places from which moments are
seen tells them apart.  The bare form of a value has none of these, so that equality of values is
identity of their bare forms, NaN apart, which is equal to nothing.

* `Double.number`, `Double.settled` : the number that a double stands for, and the one double for it;
* `Literal.bare`, `Expr.bare`, `Condition.bare`, `Filter.bare` : the bare forms;
* `Literal.same_iff`, `Expr.same_iff`, `Condition.same_iff`, `Filter.same_iff` : equality;
* `IsEquality`                      : what follows for values without NaN;
* `Filter.collapse?_bare`           : a filter collapses as its bare form does;
* `Filter.same_sees_bare`           : equality, and what collapses from filters that are equal.
-/

set_option autoImplicit false

namespace MetricQuery

/-! ## Numbers -/

/-- A magnitude is determined by how many units it has. -/
theorem Magnitude.units_inj {x y : Magnitude} : x.units = y.units ↔ x = y := by
  constructor
  · intro h
    obtain ⟨u, -, hu⟩ := exists_unitsInOne_eq
    have hpos : 0 < unitsInOne := hu ▸ Nat.two_pow_pos u
    have hx : nearest? x.units unitsInOne = some x := nearest?_exact hpos rfl
    have hy : nearest? x.units unitsInOne = some y := nearest?_exact hpos (by rw [h])
    exact Option.some.inj (hx.symm.trans hy)
  · exact congrArg units

theorem Magnitude.units_eq_zero {x : Magnitude} : x.units = 0 ↔ x.mantissa = 0 := by
  have hpos : Nat.pow 2 x.exponent ≠ 0 := Nat.ne_of_gt (Nat.pow_pos (by decide))
  rw [units, Nat.mul_eq_zero, or_iff_left hpos]

namespace Double

/-- How many units a finite double has. -/
def signedUnits (negative : Bool) (x : Magnitude) : Int := if negative then -x.units else x.units

/-- The number that a double stands for, in units of `2 ^ -1074`, between the two infinities.  A NaN
stands for none. -/
def number : Double → Option (WithBot (WithTop Int))
  | nan => none
  | infinite negative => some (if negative then ⊥ else ((⊤ : WithTop Int) : WithBot (WithTop Int)))
  | finite negative x => some ((signedUnits negative x : WithTop Int) : WithBot (WithTop Int))

/-- The double with the same number that has no sign if it is zero. -/
def settled : Double → Double
  | finite negative x => finite (negative && x.mantissa != 0) x
  | x => x

/-- Finite doubles have as many units if they are zero or have the same sign. -/
theorem signedUnits_eq_iff {a b : Bool} {x y : Magnitude} :
    signedUnits a x = signedUnits b y ↔ x = y ∧ (a = b ∨ x.mantissa = 0) := by
  rw [← Magnitude.units_inj, ← Magnitude.units_eq_zero]
  unfold signedUnits
  cases a <;> cases b <;> simp <;> omega

/-- **Doubles settle alike exactly if they stand for the same number.** -/
theorem settled_eq_settled {x y : Double} : x.settled = y.settled ↔ x.number = y.number := by
  cases x with
  | nan => cases y <;> simp [settled, number]
  | infinite a =>
    cases y with
    | nan => simp [settled, number]
    | infinite b => cases a <;> cases b <;> simp [settled, number]
    | finite b y => cases a <;> simp [settled, number]
  | finite a x =>
    cases y with
    | nan => simp [settled, number]
    | infinite b => cases b <;> simp [settled, number]
    | finite b y =>
      simp only [settled, number, finite.injEq, Option.some.injEq, WithBot.coe_inj, WithTop.coe_inj]
      rw [signedUnits_eq_iff, and_comm]
      refine and_congr_right fun hxy => ?_
      subst hxy
      by_cases hzero : x.mantissa = 0
      · simp [hzero]
      · have hsigned : (x.mantissa != 0) = true := bne_iff_ne.2 hzero
        simp [hzero, hsigned]

/-- Doubles are equal if they stand for the same number, and are not NaN. -/
theorem sameNumber_iff {x y : Double} :
    x.sameNumber y = true ↔ (x == nan) = false ∧ x.number = y.number := by
  cases x with
  | nan => cases y <;> simp [sameNumber]
  | infinite a =>
    cases y with
    | nan => simp [sameNumber, number]
    | infinite b => cases a <;> cases b <;> simp [sameNumber, number]
    | finite b y => cases a <;> simp [sameNumber, number]
  | finite a x =>
    cases y with
    | nan => simp [sameNumber, number]
    | infinite b => cases b <;> simp [sameNumber, number]
    | finite b y =>
      simp only [sameNumber, number, Option.some.injEq, WithBot.coe_inj, WithTop.coe_inj]
      rw [signedUnits_eq_iff]
      simp

@[simp] theorem settled_settled (x : Double) : x.settled.settled = x.settled := by
  cases x with
  | finite negative x => simp [settled]
  | _ => rfl

@[simp] theorem settled_eq_nan {x : Double} : x.settled = nan ↔ x = nan := by
  cases x <;> simp [settled]

end Double

/-! ## Literals -/

namespace Literal

mutual

/-- Whether a NaN is somewhere in the literal. -/
def hasNaN : Literal → Bool
  | float x => x == .nan
  | array items => anyNaN items
  | tuple items => anyNaN items
  | _ => false

/-- Whether a NaN is somewhere in one of the literals. -/
def anyNaN : List Literal → Bool
  | [] => false
  | v :: rest => v.hasNaN || anyNaN rest

end

mutual

/-- The literal with its numbers settled and its moments in universal time. -/
def bare : Literal → Literal
  | float x => float x.settled
  | moment m => moment (.utc m.instant)
  | array items => array (bareItems items)
  | tuple items => tuple (bareItems items)
  | null => null
  | bool b => bool b
  | int n => int n
  | string s => string s
  | date d => date d

/-- The bare forms of literals, one by one. -/
def bareItems : List Literal → List Literal
  | [] => []
  | v :: rest => v.bare :: bareItems rest

end

mutual

/-- **Literals are equal exactly if they have the same bare form, and no NaN.** -/
theorem same_iff : ∀ a b : Literal, a.same b = true ↔ a.hasNaN = false ∧ a.bare = b.bare
  | .float x, b => by
    cases b with
    | float y => simp [same, hasNaN, bare, Double.sameNumber_iff, Double.settled_eq_settled]
    | _ => simp [same, bare]
  | .moment m, b => by
    cases b with
    | moment n => simp [same, hasNaN, bare, Moment.sameInstant, Moment.utc]
    | _ => simp [same, bare]
  | .array items, b => by
    cases b with
    | array others => rw [same, hasNaN, bare, bare, array.injEq, sameItems_iff items others]
    | _ => simp [same, bare]
  | .tuple items, b => by
    cases b with
    | tuple others => rw [same, hasNaN, bare, bare, tuple.injEq, sameItems_iff items others]
    | _ => simp [same, bare]
  | .null, b => by cases b <;> simp [same, hasNaN, bare]
  | .bool v, b => by cases b <;> simp [same, hasNaN, bare]
  | .int n, b => by cases b <;> simp [same, hasNaN, bare]
  | .string s, b => by cases b <;> simp [same, hasNaN, bare]
  | .date d, b => by cases b <;> simp [same, hasNaN, bare]

/-- So are lists of literals. -/
theorem sameItems_iff : ∀ as bs : List Literal,
    sameItems as bs = true ↔ anyNaN as = false ∧ bareItems as = bareItems bs
  | [], [] => by simp [sameItems, anyNaN]
  | [], b :: bs => by simp [sameItems, bareItems]
  | a :: as, [] => by simp [sameItems, bareItems]
  | a :: as, b :: bs => by
    rw [sameItems, Bool.and_eq_true, same_iff a b, sameItems_iff as bs, anyNaN, bareItems,
      bareItems, Bool.or_eq_false_iff, List.cons.injEq, and_and_and_comm]

end

mutual

/-- A bare literal is its own bare form, and has the NaN that the literal has. -/
theorem bare_bare : ∀ v : Literal, v.bare.bare = v.bare ∧ v.bare.hasNaN = v.hasNaN
  | .float x => by simp [bare, hasNaN, Bool.beq_eq_decide_eq]
  | .moment m => ⟨rfl, rfl⟩
  | .array items => by
    obtain ⟨hbare, hnan⟩ := bareItems_bareItems items
    simp only [bare, hasNaN, hbare, hnan, and_self]
  | .tuple items => by
    obtain ⟨hbare, hnan⟩ := bareItems_bareItems items
    simp only [bare, hasNaN, hbare, hnan, and_self]
  | .null | .bool _ | .int _ | .string _ | .date _ => ⟨rfl, rfl⟩

theorem bareItems_bareItems : ∀ vs : List Literal,
    bareItems (bareItems vs) = bareItems vs ∧ anyNaN (bareItems vs) = anyNaN vs
  | [] => ⟨rfl, rfl⟩
  | v :: rest => by
    obtain ⟨hv, hnan⟩ := bare_bare v
    obtain ⟨hrest, hany⟩ := bareItems_bareItems rest
    simp only [bareItems, anyNaN, hv, hnan, hrest, hany, and_self]

end

theorem anyNaN_eq_false {vs : List Literal} : anyNaN vs = false ↔ ∀ v ∈ vs, v.hasNaN = false := by
  induction vs with
  | nil => simp [anyNaN]
  | cons v vs ih => rw [anyNaN, Bool.or_eq_false_iff, ih, List.forall_mem_cons]

end Literal

/-- What may be absent is equal if it is absent on both sides, or there and equal. -/
theorem sameOption_iff {α : Type} {same : α → α → Bool} {hasNaN : α → Bool} {bare : α → α}
    (h : ∀ a b, same a b = true ↔ hasNaN a = false ∧ bare a = bare b) (x y : Option α) :
    sameOption same x y = true ↔ x.any hasNaN = false ∧ x.map bare = y.map bare := by
  cases x <;> cases y <;> simp [sameOption, h]

/-! ## Expressions -/

namespace Expr

mutual

/-- Whether a NaN is somewhere in the expression. -/
def hasNaN : Expr → Bool
  | column _ => false
  | literal v => v.hasNaN
  | call _ initializers parameters _ => initializers.any Literal.anyNaN || anyNaN parameters

/-- Whether a NaN is somewhere in one of the expressions. -/
def anyNaN : List Expr → Bool
  | [] => false
  | e :: rest => e.hasNaN || anyNaN rest

end

mutual

/-- The expression without its aliases, at any depth, and with its literals bare. -/
def bare : Expr → Expr
  | column c => column c
  | literal v => literal v.bare
  | call function initializers parameters _ =>
    call function (initializers.map Literal.bareItems) (bareAll parameters) none

/-- The bare forms of expressions, one by one. -/
def bareAll : List Expr → List Expr
  | [] => []
  | e :: rest => e.bare :: bareAll rest

end

mutual

/-- **Expressions are equal exactly if they have the same bare form, and no NaN.** -/
theorem same_iff : ∀ a b : Expr, a.same b = true ↔ a.hasNaN = false ∧ a.bare = b.bare
  | .column c, b => by cases b <;> simp [same, hasNaN, bare]
  | .literal v, b => by
    cases b with
    | literal w => rw [same, hasNaN, bare, bare, literal.injEq, v.same_iff w]
    | _ => simp [same, bare]
  | .call function initializers parameters label, b => by
    cases b with
    | call function' initializers' parameters' label' =>
      have hinitializers := sameOption_iff Literal.sameItems_iff initializers initializers'
      have hparameters := sameAll_iff parameters parameters'
      simp only [same, hasNaN, bare, Bool.and_eq_true, beq_iff_eq, hinitializers, hparameters,
        Bool.or_eq_false_iff, call.injEq, and_true]
      tauto
    | _ => simp [same, bare]

/-- So are lists of expressions. -/
theorem sameAll_iff : ∀ as bs : List Expr,
    sameAll as bs = true ↔ anyNaN as = false ∧ bareAll as = bareAll bs
  | [], [] => by simp [sameAll, anyNaN]
  | [], b :: bs => by simp [sameAll, bareAll]
  | a :: as, [] => by simp [sameAll, bareAll]
  | a :: as, b :: bs => by
    rw [sameAll, Bool.and_eq_true, same_iff a b, sameAll_iff as bs, anyNaN, bareAll, bareAll,
      Bool.or_eq_false_iff, List.cons.injEq, and_and_and_comm]

end

mutual

/-- A bare expression is its own bare form, and has the NaN that the expression has. -/
theorem bare_bare : ∀ e : Expr, e.bare.bare = e.bare ∧ e.bare.hasNaN = e.hasNaN
  | .column c => ⟨rfl, rfl⟩
  | .literal v => by
    obtain ⟨hbare, hnan⟩ := v.bare_bare
    simp only [bare, hasNaN, hbare, hnan, and_self]
  | .call function none parameters label => by
    obtain ⟨hbare, hnan⟩ := bareAll_bareAll parameters
    simp only [bare, hasNaN, hbare, hnan, Option.map_none, and_self]
  | .call function (some initializers) parameters label => by
    obtain ⟨hbare, hnan⟩ := bareAll_bareAll parameters
    obtain ⟨hitems, hany⟩ := Literal.bareItems_bareItems initializers
    simp only [bare, hasNaN, hbare, hnan, hitems, hany, Option.map_some, Option.any_some, and_self]

theorem bareAll_bareAll : ∀ es : List Expr,
    bareAll (bareAll es) = bareAll es ∧ anyNaN (bareAll es) = anyNaN es
  | [] => ⟨rfl, rfl⟩
  | e :: rest => by
    obtain ⟨he, hnan⟩ := bare_bare e
    obtain ⟨hrest, hany⟩ := bareAll_bareAll rest
    simp only [bareAll, anyNaN, he, hnan, hrest, hany, and_self]

end

/-- Equality does not see what bare forms are without. -/
theorem same_bare (a b : Expr) : a.bare.same b.bare = a.same b := by
  rw [Bool.eq_iff_iff, same_iff, same_iff, a.bare_bare.1, a.bare_bare.2, b.bare_bare.1]

end Expr

/-! ## Conditions and filters -/

namespace Condition

/-- Whether a NaN is somewhere in the condition. -/
def hasNaN (c : Condition) : Bool := c.lhs.hasNaN || c.rhs.any Expr.hasNaN

/-- The condition with both of its sides bare. -/
def bare (c : Condition) : Condition := ⟨c.lhs.bare, c.op, c.rhs.map Expr.bare⟩

/-- **Conditions are equal exactly if they have the same bare form, and no NaN.** -/
theorem same_iff (a b : Condition) : a.same b = true ↔ a.hasNaN = false ∧ a.bare = b.bare := by
  have hrhs := sameOption_iff Expr.same_iff a.rhs b.rhs
  simp only [same, hasNaN, bare, Bool.and_eq_true, beq_iff_eq, Expr.same_iff, hrhs,
    Bool.or_eq_false_iff, Condition.mk.injEq]
  tauto

end Condition

namespace Filter

mutual

/-- Whether a NaN is somewhere in the filter. -/
def hasNaN : Filter → Bool
  | condition c => c.hasNaN
  | group _ members => anyNaN members

/-- Whether a NaN is somewhere in one of the filters. -/
def anyNaN : List Filter → Bool
  | [] => false
  | f :: rest => f.hasNaN || anyNaN rest

end

mutual

/-- The filter with its conditions bare, at any depth. -/
def bare : Filter → Filter
  | condition c => condition c.bare
  | group op members => group op (bareAll members)

/-- The bare forms of filters, one by one. -/
def bareAll : List Filter → List Filter
  | [] => []
  | f :: rest => f.bare :: bareAll rest

end

mutual

/-- **Filters are equal exactly if they have the same bare form, and no NaN.** -/
theorem same_iff : ∀ a b : Filter, a.same b = true ↔ a.hasNaN = false ∧ a.bare = b.bare
  | .condition c, b => by
    cases b with
    | condition d => rw [same, hasNaN, bare, bare, condition.injEq, c.same_iff d]
    | group op members => simp [same, bare]
  | .group op members, b => by
    cases b with
    | condition d => simp [same, bare]
    | group op' members' =>
      rw [same, hasNaN, bare, bare, group.injEq, Bool.and_eq_true, beq_iff_eq,
        sameAll_iff members members', and_left_comm]

/-- So are lists of filters. -/
theorem sameAll_iff : ∀ as bs : List Filter,
    sameAll as bs = true ↔ anyNaN as = false ∧ bareAll as = bareAll bs
  | [], [] => by simp [sameAll, anyNaN]
  | [], b :: bs => by simp [sameAll, bareAll]
  | a :: as, [] => by simp [sameAll, bareAll]
  | a :: as, b :: bs => by
    rw [sameAll, Bool.and_eq_true, same_iff a b, sameAll_iff as bs, anyNaN, bareAll, bareAll,
      Bool.or_eq_false_iff, List.cons.injEq, and_and_and_comm]

end

theorem bareAll_eq (fs : List Filter) : bareAll fs = fs.map bare := by
  induction fs with
  | nil => rfl
  | cons f fs ih => rw [bareAll, ih, List.map_cons]

theorem anyNaN_eq_false {fs : List Filter} : anyNaN fs = false ↔ ∀ f ∈ fs, f.hasNaN = false := by
  induction fs with
  | nil => simp [anyNaN]
  | cons f fs ih => rw [anyNaN, Bool.or_eq_false_iff, ih, List.forall_mem_cons]

/-! ## What collapses -/

theorem equality?_bare (f : Filter) :
    f.bare.equality? = f.equality?.map fun sides => (sides.1.bare, sides.2.bare) := by
  obtain ⟨lhs, op, rhs⟩ | ⟨op, members⟩ := f
  · obtain _ | rhs := rhs
    · cases op <;> rfl
    · cases op <;> cases rhs <;> rfl
  · rfl

theorem valuesOf?_bare (lhs : Expr) (fs : List Filter) :
    valuesOf? lhs.bare (bareAll fs) = (valuesOf? lhs fs).map Literal.bareItems := by
  induction fs with
  | nil => rfl
  | cons f fs ih =>
    rw [bareAll, valuesOf?, valuesOf?, equality?_bare, ih]
    obtain _ | ⟨side, value⟩ := f.equality?
    · rfl
    · simp only [Option.map_some, Option.bind_eq_bind, Option.bind_some, Expr.same_bare]
      by_cases hsame : lhs.same side = true
      · cases hvalues : valuesOf? lhs fs <;> simp [hsame, Literal.bareItems]
      · simp [hsame]

/-- **A filter collapses as its bare form does.** -/
theorem collapse?_bare (f : Filter) : f.bare.collapse? = f.collapse?.map bare := by
  obtain c | ⟨op, members⟩ := f
  · rfl
  obtain _ | _ := op
  · rfl
  obtain _ | ⟨first, rest⟩ := members
  · rfl
  rw [bare, bareAll, collapse?, collapse?, equality?_bare]
  obtain _ | ⟨lhs, value⟩ := first.equality?
  · rfl
  · simp only [Option.map_some, Option.bind_eq_bind, Option.bind_some, valuesOf?_bare]
    cases hvalues : valuesOf? lhs rest <;>
      simp [bare, Condition.bare, Expr.bare, Literal.bare, Literal.bareItems]

theorem collapse_bare (f : Filter) : f.bare.collapse = f.collapse.bare := by
  rw [collapse, collapse, collapse?_bare]
  cases f.collapse? <;> rfl

/-- Of a list of filters the same are rewritten as of their bare forms. -/
theorem collapseAll?_bare (fs : List Filter) :
    collapseAll? (bareAll fs) = (collapseAll? fs).map bareAll := by
  have hcount : collapsible (bareAll fs) = collapsible fs := by
    rw [bareAll_eq, collapsible, collapsible, List.countP_map]
    refine List.countP_congr fun f _ => ?_
    simp [collapse?_bare]
  have hmap : (bareAll fs).map collapse = bareAll (fs.map collapse) := by
    simp [bareAll_eq, collapse_bare]
  rw [collapseAll?, collapseAll?, hcount, hmap]
  split <;> rfl

/-- A filter without a NaN collapses to one without. -/
theorem hasNaN_collapse {f : Filter} (h : f.hasNaN = false) : f.collapse.hasNaN = false := by
  unfold collapse
  cases hcollapse : f.collapse? with
  | none => exact h
  | some g =>
    obtain ⟨lhs, values, ⟨hothers⟩, rfl⟩ := collapse?_eq_some.1 hcollapse
    rename_i value others
    have hparts {side : Expr} {v : Literal} (h : (equality side v).hasNaN = false) :
        side.hasNaN = false ∧ v.hasNaN = false := Bool.or_eq_false_iff.1 h
    obtain ⟨hfirst, hrest⟩ := List.forall_mem_cons.1 (anyNaN_eq_false.1 h)
    refine Bool.or_eq_false_iff.2 ⟨(hparts hfirst).1, ?_⟩
    refine Literal.anyNaN_eq_false.2 (List.forall_mem_cons.2 ⟨(hparts hfirst).2, fun v hv => ?_⟩)
    obtain ⟨other, hother, rfl⟩ := List.mem_map.1 hv
    exact (hparts (hrest _ (List.mem_map_of_mem hother))).2

/-- **Filters that are equal are rewritten to filters that are equal.** -/
theorem same_collapseAll? {fs gs : List Filter} (h : sameAll fs gs = true) :
    sameOption sameAll (collapseAll? fs) (collapseAll? gs) = true := by
  obtain ⟨hnan, hbare⟩ := (sameAll_iff fs gs).1 h
  rw [sameOption_iff sameAll_iff, ← collapseAll?_bare, ← collapseAll?_bare, hbare]
  refine ⟨?_, rfl⟩
  cases hout : collapseAll? fs with
  | none => rfl
  | some out =>
    obtain rfl := eq_of_collapseAll? hout
    rw [Option.any_some, anyNaN_eq_false, List.forall_mem_map]
    exact fun f hf => hasNaN_collapse (anyNaN_eq_false.1 hnan f hf)

end Filter

/-! ## Equality -/

/-- An equality that sees bare forms alone: values without a NaN are equal exactly if their bare
forms are the same, and so it is an equivalence of them. -/
structure IsEquality {α : Type} (same : α → α → Bool) (hasNaN : α → Bool) (bare : α → α) :
    Prop where
  iff_bare {a b : α} : hasNaN a = false → hasNaN b = false → (same a b = true ↔ bare a = bare b)
  refl {a : α} : hasNaN a = false → same a a = true
  symm {a b : α} : hasNaN a = false → hasNaN b = false → same a b = true → same b a = true
  trans {a b c : α} : hasNaN a = false → hasNaN b = false → hasNaN c = false →
    same a b = true → same b c = true → same a c = true

theorem isEquality_of_iff {α : Type} {same : α → α → Bool} {hasNaN : α → Bool} {bare : α → α}
    (h : ∀ a b, same a b = true ↔ hasNaN a = false ∧ bare a = bare b) :
    IsEquality same hasNaN bare where
  iff_bare ha _ := (h _ _).trans (and_iff_right ha)
  refl ha := (h _ _).2 ⟨ha, rfl⟩
  symm _ hb hab := (h _ _).2 ⟨hb, ((h _ _).1 hab).2.symm⟩
  trans ha _ _ hab hbc := (h _ _).2 ⟨ha, ((h _ _).1 hab).2.trans ((h _ _).1 hbc).2⟩

/-- **Equality sees bare forms alone, and rewriting keeps to it.**  Expressions, conditions, filters
and lists of filters without a NaN are equal exactly if they are the same up to aliases at any depth,
with numbers taken as numbers and moments as instants.  Lists of filters that are equal are either
both left as they are, or rewritten to lists that are equal. -/
theorem Filter.same_sees_bare :
    (∀ x y : Double, x.settled = y.settled ↔ x.number = y.number) ∧
    IsEquality Expr.same Expr.hasNaN Expr.bare ∧
    IsEquality Condition.same Condition.hasNaN Condition.bare ∧
    IsEquality Filter.same Filter.hasNaN Filter.bare ∧
    IsEquality Filter.sameAll Filter.anyNaN Filter.bareAll ∧
    ∀ fs gs, Filter.sameAll fs gs = true →
      sameOption Filter.sameAll (Filter.collapseAll? fs) (Filter.collapseAll? gs) = true :=
  ⟨fun _ _ => Double.settled_eq_settled, isEquality_of_iff Expr.same_iff,
    isEquality_of_iff Condition.same_iff, isEquality_of_iff Filter.same_iff,
    isEquality_of_iff Filter.sameAll_iff, fun _ _ => Filter.same_collapseAll?⟩

/-- Two sides that differ in an alias within them, in the sign of a zero and in the place from which a
moment is seen are equal; a choice whose second side is the other one collapses like one whose sides
are the same. -/
theorem Filter.same_sees_bare_zeros :
    let side := fun (negative : Bool) (offset : Int) (name : String) =>
      Expr.call "f" (some [.float (.finite negative .zero)])
        [.call "g" none [.literal (.moment ⟨⟨0, 0⟩, offset⟩)] (some name)] none
    let a := side false 0 "x"
    let b := side true 3600 "y"
    let choice := fun (second : Expr) => [group .or [equality a (.int 1), equality second (.int 2)]]
    a.hasNaN = false ∧ b.hasNaN = false ∧ a ≠ b ∧ a.same b = true ∧
      sameOption sameAll (collapseAll? (choice a)) (collapseAll? (choice b)) = true := by
  intro side a b choice
  obtain ⟨-, hexpr, -, -, hlists, hcollapse⟩ := Filter.same_sees_bare
  have hne : a ≠ b := by simp [a, b, side]
  exact ⟨rfl, rfl, hne, (hexpr.iff_bare rfl rfl).2 rfl,
    hcollapse _ _ ((hlists.iff_bare rfl rfl).2 rfl)⟩

end MetricQuery
