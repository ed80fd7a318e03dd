import Mathlib.Data.List.Forall2
import MetricQuery.Query.Printer
import MetricQuery.Reduce

/-!
# Outcomes

Reading and writing go through lists of parts, and stop at the first part that fails.

* `Outcome.bind_eq_ok`  : a sequence succeeds when both of its steps do;
* `Outcome.mapM_eq_ok`  : a list succeeds when every member does, each with its own result;
* `Operand.printAll_eq`, `Surface.reduceTerms_eq` and others: which functions go through a list so.
-/

set_option autoImplicit false

namespace MetricQuery

namespace Outcome

variable {ε α β : Type}

/-- A sequence succeeds when both of its steps do. -/
theorem bind_eq_ok {x : Except ε α} {f : α → Except ε β} {b : β} :
    (x >>= f) = .ok b ↔ ∃ a, x = .ok a ∧ f a = .ok b := by
  cases x with
  | error e => simp [bind, Except.bind]
  | ok a => simp [bind, Except.bind]

theorem bind_of_ok {x : Except ε α} {a : α} (f : α → Except ε β) (h : x = .ok a) :
    (x >>= f) = f a := by
  rw [h]; rfl

@[simp] theorem pure_eq_ok {a b : α} : (pure a : Except ε α) = .ok b ↔ a = b := by
  simp [pure, Except.pure]

theorem exists_of_isSome {x : Except ε α} (h : x.toOption.isSome = true) : ∃ a, x = .ok a := by
  cases x with
  | error e => cases h
  | ok a => exact ⟨a, rfl⟩

theorem eq_ok_of_toOption {x : Except ε α} {a : α} (h : x.toOption = some a) : x = .ok a := by
  cases x with
  | error e => cases h
  | ok b => exact congrArg Except.ok (Option.some.inj h)

/-- **A list succeeds when every member does.** -/
theorem mapM_eq_ok {f : α → Except ε β} {as : List α} {bs : List β} :
    as.mapM f = .ok bs ↔ List.Forall₂ (fun a b => f a = .ok b) as bs := by
  induction as generalizing bs with
  | nil => simp [pure, Except.pure, eq_comm]
  | cons a as ih =>
    rw [List.mapM_cons, bind_eq_ok]
    constructor
    · rintro ⟨b, hb, h⟩
      obtain ⟨bs', hbs', h⟩ := bind_eq_ok.1 h
      cases pure_eq_ok.1 h
      exact .cons hb (ih.1 hbs')
    · intro h
      cases h with
      | @cons _ b _ bs' hb hbs =>
        exact ⟨b, hb, bind_eq_ok.2 ⟨bs', ih.2 hbs, rfl⟩⟩

/-- Each result is that of a member. -/
theorem exists_of_mem {f : α → Except ε β} {as : List α} {bs : List β}
    (h : as.mapM f = .ok bs) {b : β} (hb : b ∈ bs) : ∃ a ∈ as, f a = .ok b := by
  have hall := mapM_eq_ok.1 h
  clear h
  induction hall with
  | nil => cases hb
  | @cons a x as bs hax _ ih =>
    rcases List.mem_cons.1 hb with rfl | hb
    · exact ⟨a, by simp, hax⟩
    · obtain ⟨a', ha', hab⟩ := ih hb
      exact ⟨a', by simp [ha'], hab⟩

/-- Each member has a result. -/
theorem exists_ok_of_mem {f : α → Except ε β} {as : List α} {bs : List β}
    (h : as.mapM f = .ok bs) {a : α} (ha : a ∈ as) : ∃ b, f a = .ok b := by
  have hall := mapM_eq_ok.1 h
  clear h
  induction hall with
  | nil => cases ha
  | @cons x b as bs hxb _ ih =>
    rcases List.mem_cons.1 ha with rfl | ha
    · exact ⟨b, hxb⟩
    · exact ih ha

theorem ne_nil_of_mapM {f : α → Except ε β} {as : List α} {bs : List β}
    (h : as.mapM f = .ok bs) (hne : as ≠ []) : bs ≠ [] := by
  rintro rfl
  exact hne (List.forall₂_nil_right_iff.1 (mapM_eq_ok.1 h))

/-- Where each member has a result, the list has one. -/
theorem exists_mapM_eq_ok {f : α → Except ε β} {as : List α} (h : ∀ a ∈ as, ∃ b, f a = .ok b) :
    ∃ bs, as.mapM f = .ok bs := by
  induction as with
  | nil => exact ⟨[], rfl⟩
  | cons a as ih =>
    obtain ⟨b, hb⟩ := h a (by simp)
    obtain ⟨bs, hbs⟩ := ih fun x hx => h x (by simp [hx])
    exact ⟨b :: bs, mapM_eq_ok.2 (.cons hb (mapM_eq_ok.1 hbs))⟩

/-- A recursion that goes through a list this way does so. -/
theorem eq_mapM {f : α → Except ε β} {go : List α → Except ε (List β)} (hnil : go [] = pure [])
    (hcons : ∀ a as, go (a :: as) = (do
      let first ← f a
      let others ← go as
      pure (first :: others))) (as : List α) : go as = as.mapM f := by
  induction as with
  | nil => rw [hnil, List.mapM_nil]
  | cons a as ih => rw [hcons, ih, List.mapM_cons]

/-- The outcome for what may be absent. -/
def optionally (f : α → Except ε β) : Option α → Except ε (Option β)
  | none => pure none
  | some a => do
    let b ← f a
    pure (some b)

theorem optionally_eq_ok {f : α → Except ε β} {x : Option α} {y : Option β} :
    optionally f x = .ok y ↔
      x = none ∧ y = none ∨ ∃ a b, x = some a ∧ y = some b ∧ f a = .ok b := by
  cases x with
  | none => simp [optionally, pure, Except.pure, eq_comm]
  | some a =>
    rw [optionally, bind_eq_ok]
    constructor
    · rintro ⟨b, hb, h⟩
      exact .inr ⟨a, b, rfl, (pure_eq_ok.1 h).symm, hb⟩
    · rintro (⟨h, -⟩ | ⟨_, b, h, rfl, hb⟩)
      · cases h
      · cases h
        exact ⟨b, hb, rfl⟩

end Outcome

theorem QueryError.ofCheck_eq_ok {α : Type} {x : Except Invalid α} {a : α} :
    ofCheck x = .ok a ↔ x = .ok a := by
  cases x <;> simp [ofCheck]

/-! ## What is written part by part -/

open Outcome

theorem Literal.parameterTexts_eq (ps : List Literal) :
    parameterTexts ps = ps.mapM Literal.parameterText :=
  eq_mapM (by rw [parameterTexts]) (fun _ _ => by rw [parameterTexts]) ps

theorem Column.printAll_eq (role : NameRole) (cs : List Column) :
    printAll role cs = cs.mapM (Column.print role) :=
  eq_mapM (by rw [printAll]) (fun _ _ => by rw [printAll]) cs

theorem Filter.printAll_eq (fs : List Filter) : printAll fs = fs.mapM Filter.print :=
  eq_mapM (by rw [printAll]) (fun _ _ => by rw [printAll]) fs

theorem Operand.printAll_eq (os : List Operand) : printAll os = os.mapM Operand.print :=
  eq_mapM (by rw [printAll]) (fun _ _ => by rw [printAll]) os

namespace Surface

/-! ## What is reduced part by part -/

theorem columns_eq (names : List String) : columns names = names.mapM column :=
  eq_mapM (by rw [columns]) (fun _ _ => by rw [columns]) names

theorem reduceFactors_eq (fs : List TagFactor) : reduceFactors fs = fs.mapM TagFactor.reduce :=
  eq_mapM (by rw [reduceFactors]) (fun _ _ => by rw [reduceFactors]) fs

/-- The filter that a term stands for. -/
def TagTerm.reduce (term : TagTerm) : Except QueryError Filter := do
  let factors ← reduceFactors term
  pure (joined .and factors)

theorem reduceTerms_eq (terms : List TagTerm) : reduceTerms terms = terms.mapM TagTerm.reduce :=
  eq_mapM (by rw [reduceTerms]) (fun _ _ => by rw [reduceTerms]; simp [TagTerm.reduce]) terms

theorem reduceArguments_eq (args : List Expression) :
    reduceArguments args = args.mapM Expression.reduce :=
  eq_mapM (by rw [reduceArguments]) (fun _ _ => by rw [reduceArguments]) args

/-- The filter of a selection, as the only one of a list. -/
def onlyFilter (terms : TagFilter) : Except QueryError (List Filter) := do
  let f ← TagFilter.reduce terms
  pure [f]

theorem Selection.reduce_eq (s : Selection) :
    s.reduce = (do
      let filters ← optionally onlyFilter s.filters
      let groupby ← optionally columns s.groupBy
      let metric ← s.metric.reduce
      pure { Timeseries.unaggregated metric with filters, groupby }) := by
  obtain ⟨m, filters, groupBy⟩ := s
  cases filters <;> cases groupBy <;> simp [Selection.reduce, optionally, onlyFilter]

end Surface

end MetricQuery
