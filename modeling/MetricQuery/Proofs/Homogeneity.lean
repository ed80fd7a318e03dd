import Mathlib.Logic.Relation
import MetricQuery.Proofs.FiniteNumbers

/-!
# Arrays of one family

The check of a literal goes through the items of an array one after the other, remembers the family
it saw first and stops at the first fault.  What it decides is a property of the literal as a whole,
and neither the order of items nor nulls among them have a part in it.

* `Literal.arrays`               : the items of every array in a literal, at every depth;
* `Literal.validate_eq_ok`       : a literal passes if its numbers are finite and its arrays are of
  one family;
* `Literal.Rearranges`           : items are put in another order, or a null is put among them;
* `Literal.Rearranges.keeps`     : what one such change keeps, and `Literal.validate_of_eqvGen` what
  any number of them do;
* `Literal.validate_homogeneous` : both together.
-/

set_option autoImplicit false

namespace MetricQuery

namespace Literal

/-! ## What the check decides -/

mutual

/-- The items of the arrays in a literal, array by array.  A literal that is an array is among
them. -/
def arrays : Literal → List (List Literal)
  | array items => items :: arraysAll items
  | tuple items => arraysAll items
  | _ => []

/-- The items of the arrays in literals, in order. -/
def arraysAll : List Literal → List (List Literal)
  | [] => []
  | v :: rest => v.arrays ++ arraysAll rest

end

/-- Every number in the literal is finite, and every array in it is of one family. -/
def IsHomogeneous (v : Literal) : Prop :=
  (∀ x ∈ v.floats, x.isFinite = true) ∧ ∀ items ∈ v.arrays, AreOneFamily items

mutual

/-- **A literal passes its check exactly if its numbers are finite and its arrays are of one
family**, at every depth. -/
theorem validate_eq_ok : ∀ v : Literal, v.validate = .ok () ↔ v.IsHomogeneous
  | .array items => by
    rw [validate_array_eq_ok, validateAll_eq_ok items, IsHomogeneous, floats, arrays,
      List.forall_mem_cons, and_assoc]
    exact and_congr_right fun _ => and_comm
  | .tuple items => by
    rw [validate_tuple_eq_ok, validateAll_eq_ok items, IsHomogeneous, floats, arrays]
  | .float x => by
    rw [validate_float_eq_ok]
    simp [IsHomogeneous, floats, arrays]
  | .null | .bool _ | .int _ | .string _ | .date _ | .moment _ =>
    iff_of_true (by rw [validate]; all_goals simp) (by simp [IsHomogeneous, floats, arrays])

/-- So do literals one by one. -/
theorem validateAll_eq_ok : ∀ items : List Literal,
    (∀ v ∈ items, v.validate = .ok ()) ↔
      (∀ x ∈ floatsAll items, x.isFinite = true) ∧ ∀ held ∈ arraysAll items, AreOneFamily held
  | [] => by simp [floatsAll, arraysAll]
  | v :: rest => by
    rw [List.forall_mem_cons, validate_eq_ok v, validateAll_eq_ok rest, IsHomogeneous, floatsAll,
      arraysAll, List.forall_mem_append, List.forall_mem_append]
    exact and_and_and_comm

end

/-! ## Changes that no family sees -/

section

variable {items others front back : List Literal} {v w : Literal}

/-- Families do not see the order of items. -/
theorem areOneFamily_of_perm (h : items.Perm others) :
    AreOneFamily items ↔ AreOneFamily others :=
  exists_congr fun _ => ⟨fun hall v hv => hall v (h.mem_iff.2 hv),
    fun hall v hv => hall v (h.mem_iff.1 hv)⟩

/-- The null is of every family. -/
theorem areOneFamily_null :
    AreOneFamily (front ++ null :: back) ↔ AreOneFamily (front ++ back) := by
  have hnull (family : Family) : null.IsOf family := by simp [IsOf, family?]
  simp only [AreOneFamily, List.forall_mem_append, List.forall_mem_cons, hnull, true_and]

/-- An item counts by its own family alone, whatever is in it. -/
theorem areOneFamily_item (h : v.family? = w.family?) :
    AreOneFamily (front ++ v :: back) ↔ AreOneFamily (front ++ w :: back) := by
  simp only [AreOneFamily, List.forall_mem_append, List.forall_mem_cons, IsOf, h]

/-- What holds items: arrays, and tuples. -/
inductive IsHolder : (List Literal → Literal) → Prop where
  | array : IsHolder array
  | tuple : IsHolder tuple

variable {hold : List Literal → Literal}

theorem IsHolder.family?_eq (h : IsHolder hold) : (hold items).family? = (hold others).family? := by
  cases h <;> rfl

/-- A holder does not tell lists apart whose items pass alike and which are of one family alike. -/
theorem IsHolder.validate_congr (h : IsHolder hold)
    (hpass : (∀ v ∈ items, v.validate = .ok ()) ↔ ∀ v ∈ others, v.validate = .ok ())
    (hfamily : AreOneFamily items ↔ AreOneFamily others) :
    (hold items).validate = .ok () ↔ (hold others).validate = .ok () := by
  cases h with
  | array => rw [validate_array_eq_ok, validate_array_eq_ok, hpass, hfamily]
  | tuple => rw [validate_tuple_eq_ok, validate_tuple_eq_ok, hpass]

end

/-- One change inside a literal: the items of one array or tuple are put in another order, or a null
is put among them. -/
inductive Rearranges : Literal → Literal → Prop where
  | perm {hold : List Literal → Literal} {items others : List Literal} (hhold : IsHolder hold)
      (h : items.Perm others) : Rearranges (hold items) (hold others)
  | null {hold : List Literal → Literal} (hhold : IsHolder hold) (front back : List Literal) :
      Rearranges (hold (front ++ back)) (hold (front ++ null :: back))
  | item {hold : List Literal → Literal} {v w : Literal} (hhold : IsHolder hold)
      (front back : List Literal) (h : Rearranges v w) :
      Rearranges (hold (front ++ v :: back)) (hold (front ++ w :: back))

/-- **One change is seen neither by the check nor by the family of the literal**, which is what an
array around it goes by. -/
theorem Rearranges.keeps {v w : Literal} (h : Rearranges v w) :
    v.family? = w.family? ∧ (v.validate = .ok () ↔ w.validate = .ok ()) := by
  induction h with
  | @perm hold items others hhold hperm =>
    have hpass : (∀ v ∈ items, v.validate = .ok ()) ↔ ∀ v ∈ others, v.validate = .ok () :=
      ⟨fun hall v hv => hall v (hperm.mem_iff.2 hv), fun hall v hv => hall v (hperm.mem_iff.1 hv)⟩
    exact ⟨hhold.family?_eq, hhold.validate_congr hpass (areOneFamily_of_perm hperm)⟩
  | null hhold front back =>
    have hnull : Literal.null.validate = .ok () := by rw [validate]; all_goals simp
    refine ⟨hhold.family?_eq, hhold.validate_congr ?_ areOneFamily_null.symm⟩
    simp only [List.forall_mem_append, List.forall_mem_cons, hnull, true_and]
  | item hhold front back _ ih =>
    refine ⟨hhold.family?_eq, hhold.validate_congr ?_ (areOneFamily_item ih.1)⟩
    simp only [List.forall_mem_append, List.forall_mem_cons, ih.2]

/-- **Nor do any number of changes count**, made or taken back. -/
theorem validate_of_eqvGen {v w : Literal} (h : Relation.EqvGen Rearranges v w) :
    v.validate = .ok () ↔ w.validate = .ok () := by
  induction h with
  | rel _ _ hstep => exact hstep.keeps.2
  | refl _ => rfl
  | symm _ _ _ ih => exact ih.symm
  | trans _ _ _ _ _ ih ih' => exact ih.trans ih'

/-- **What the check of a literal asks, and that order and nulls have no part in it.**  A literal
passes exactly if every number in it is finite and, of every array in it, all items that are not null
are of one family; and putting the items of any array or tuple in it in another order, or putting
nulls among them, never makes it pass or fail. -/
theorem validate_homogeneous (v : Literal) :
    (v.validate = .ok () ↔
      (∀ x ∈ v.floats, x.isFinite = true) ∧ ∀ items ∈ v.arrays, AreOneFamily items) ∧
    ∀ w, Relation.EqvGen Rearranges v w → (v.validate = .ok () ↔ w.validate = .ok ()) :=
  ⟨validate_eq_ok v, fun _ => validate_of_eqvGen⟩

/-- An integer beside a float, in an array in a tuple in an array: the innermost items are put in
another order, then the outermost, among which a null is put at last. -/
theorem validate_homogeneous_nested :
    let zero := float (.finite false .zero)
    let v := array [tuple [array [int 1, null, zero], string "a"], tuple []]
    let w := array [tuple [], null, tuple [array [zero, int 1, null], string "a"]]
    Relation.EqvGen Rearranges v w ∧ v.validate = .ok () ∧ w.validate = .ok () := by
  intro zero v w
  have hinner : Rearranges (array [int 1, null, zero]) (array [zero, int 1, null]) :=
    .perm .array (@List.perm_append_comm _ [int 1, null] [zero])
  have htuple : Rearranges v (array [tuple [array [zero, int 1, null], string "a"], tuple []]) :=
    .item .array [] [tuple []] (.item .tuple [] [string "a"] hinner)
  have houter : Rearranges (array [tuple [array [zero, int 1, null], string "a"], tuple []])
      (array [tuple [], tuple [array [zero, int 1, null], string "a"]]) :=
    .perm .array (.swap _ _ _)
  have hnull : Rearranges (array [tuple [], tuple [array [zero, int 1, null], string "a"]]) w :=
    .null .array [tuple []] [tuple [array [zero, int 1, null], string "a"]]
  have hall : Relation.EqvGen Rearranges v w :=
    .trans _ _ _ (.rel _ _ htuple) (.trans _ _ _ (.rel _ _ houter) (.rel _ _ hnull))
  have hvalid : v.validate = .ok () := by rfl
  exact ⟨hall, hvalid, ((validate_homogeneous v).2 w hall).1 hvalid⟩

end Literal

end MetricQuery
