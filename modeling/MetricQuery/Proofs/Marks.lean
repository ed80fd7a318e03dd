import MetricQuery.Proofs.CallSites

/-!
# Where two readings part

The marks of an operand are its calls, metrics and literals in the order in which they are written.
Signs leave no mark, since what follows an operand decides which sign binds it.  Two texts that part
at some mark stay apart, whatever comes after it.

* `Operand.marks`              : the marks of an operand;
* `Departs`                    : the first difference between two lists of marks;
* `Surface.Expression.marks_ofList` : the marks of a sum are those of its terms, in order;
* `Surface.Astray`             : whatever a scanner finds, its marks depart from the expected ones.
-/

set_option autoImplicit false

namespace MetricQuery

/-! ## Marks -/

/-- What stands out in a text: a literal, a metric, or a call with its parameters. -/
inductive Mark where
  | literal
  | metric
  | call (parameters : Option (List Literal))

/-- The mark of the function of a formula, which signs do not leave. -/
def Formula.headMarks (f : Formula) : List Mark :=
  match f.sign? with
  | some _ => []
  | none => [.call f.parameters]

/-- The marks of a series: its aggregate and its metric. -/
def Timeseries.marks (t : Timeseries) : List Mark :=
  if t.hasAggregate then [.call t.parameters, .metric] else [.metric]

mutual

/-- The marks of a formula. -/
def Formula.marks : Formula → List Mark
  | ⟨function, parameters, operands, filters, groupby⟩ =>
    Formula.headMarks ⟨function, parameters, operands, filters, groupby⟩ ++
      Operand.marksAll operands

/-- The marks of an operand, in the order of the text. -/
def Operand.marks : Operand → List Mark
  | .formula f => f.marks
  | .timeseries t => t.marks
  | .int _ => [.literal]
  | .float _ => [.literal]
  | .string _ => [.literal]

/-- The marks of operands, in order. -/
def Operand.marksAll : List Operand → List Mark
  | [] => []
  | o :: others => o.marks ++ Operand.marksAll others

end

namespace Operand

theorem marksAll_eq (os : List Operand) : marksAll os = os.flatMap marks := by
  induction os with
  | nil => rfl
  | cons o others ih => rw [marksAll, ih, List.flatMap_cons]

theorem marks_formula (f : Formula) :
    (Operand.formula f).marks = f.headMarks ++ f.operands.flatMap marks := by
  obtain ⟨function, parameters, operands, filters, groupby⟩ := f
  rw [marks, Formula.marks, marksAll_eq]

theorem marks_timeseries (t : Timeseries) : (Operand.timeseries t).marks = t.marks := by
  rw [marks]

theorem marks_arithmetic (op : ArithmeticOp) (a b : Operand) :
    (Operand.formula (.arithmetic op a b)).marks = a.marks ++ b.marks := by
  rw [marks_formula]
  simp [Formula.headMarks, Formula.sign?, Formula.arithmetic, Formula.new, Formula.operator?]

theorem marks_negation (o : Operand) :
    (Operand.formula (.new negation [o])).marks = .call none :: o.marks := by
  rw [marks_formula]
  simp [Formula.headMarks, Formula.sign?, Formula.operator?, Formula.new, ofName?_negation]

/-- Joining filters leaves the marks. -/
theorem marks_united (o : Operand) : o.united.marks = o.marks := by
  induction o using Operand.induction with
  | formula f ih =>
    obtain ⟨function, parameters, operands, filters, groupby⟩ := f
    have hall : (operands.map united).flatMap marks = operands.flatMap marks := by
      rw [List.flatMap_map]
      exact List.flatMap_congr fun o ho => ih o ho
    rw [united, Formula.united, marks_formula, marks_formula, unitedAll_eq, hall]
    rfl
  | timeseries t => rfl
  | int n => rfl
  | float x => rfl
  | string s => rfl

end Operand

/-! ## Departures -/

/-- The lists agree up to a place where both go on, and differ in that place. -/
def Departs (expected found : List Mark) : Prop :=
  ∃ shared a b rest rest', expected = shared ++ a :: rest ∧ found = shared ++ b :: rest' ∧ a ≠ b

namespace Departs

variable {expected found : List Mark}

theorem head {a b : Mark} (h : a ≠ b) (rest rest' : List Mark) :
    Departs (a :: rest) (b :: rest') :=
  ⟨[], a, b, rest, rest', rfl, rfl, h⟩

/-- What comes after the departure does not undo it. -/
theorem append (h : Departs expected found) (more more' : List Mark) :
    Departs (expected ++ more) (found ++ more') := by
  obtain ⟨shared, a, b, rest, rest', rfl, rfl, hne⟩ := h
  exact ⟨shared, a, b, rest ++ more, rest' ++ more', by simp, by simp, hne⟩

theorem prepend (h : Departs expected found) (front : List Mark) :
    Departs (front ++ expected) (front ++ found) := by
  obtain ⟨shared, a, b, rest, rest', rfl, rfl, hne⟩ := h
  exact ⟨front ++ shared, a, b, rest, rest', by simp, by simp, hne⟩

theorem ne (h : Departs expected found) : expected ≠ found := by
  obtain ⟨shared, a, b, rest, rest', rfl, rfl, hne⟩ := h
  intro e
  have hcons := List.append_cancel_left e
  exact hne (List.cons.inj hcons).1

end Departs

namespace Surface

open Outcome

/-! ## The marks of what is read -/

/-- Whatever is found, its marks depart from the expected ones. -/
def Astray {α : Type} (reduce : α → Except QueryError Operand) (expected : List Mark)
    (found : Option (α × List Char)) : Prop :=
  ∀ a r, found = some (a, r) → ∀ o, reduce a = .ok o → Departs expected o.marks

/-- Operations from left to right leave the marks of their operands, in order. -/
theorem marks_foldl {α β : Type} {reduceLhs : α → Except QueryError Operand}
    {reduceRhs : β → Except QueryError Operand} {binary : α → ArithmeticOp → β → α}
    (hbinary : ∀ a op b, reduceLhs (binary a op b) = (do
      let x ← reduceLhs a
      let y ← reduceRhs b
      pure (.formula (.arithmetic op x y))))
    {rest : List (ArithmeticOp × β)} : ∀ {first : α} {o : Operand},
      reduceLhs (rest.foldl (fun lhs step => binary lhs step.1 step.2) first) = .ok o →
        ∃ x ys, reduceLhs first = .ok x ∧
          List.Forall₂ (fun step y => reduceRhs step.2 = .ok y) rest ys ∧
          o.marks = x.marks ++ ys.flatMap Operand.marks := by
  induction rest with
  | nil => exact fun {_ o} h => ⟨o, [], h, .nil, by simp⟩
  | cons step rest ih =>
    intro first o h
    obtain ⟨z, ys, hz, hys, hmarks⟩ := ih h
    rw [hbinary] at hz
    obtain ⟨x, hx, hz⟩ := bind_eq_ok.1 hz
    obtain ⟨y, hy, hz⟩ := bind_eq_ok.1 hz
    cases pure_eq_ok.1 hz
    refine ⟨x, y :: ys, hx, .cons hy hys, ?_⟩
    rw [hmarks, Operand.marks_arithmetic, List.flatMap_cons, List.append_assoc]

theorem Term.marks_ofList {first : Unary} {rest : List (ArithmeticOp × Unary)} {o : Operand}
    (h : (Term.ofList first rest).reduce = .ok o) :
    ∃ x ys, first.reduce = .ok x ∧
      List.Forall₂ (fun step y => step.2.reduce = .ok y) rest ys ∧
      o.marks = x.marks ++ ys.flatMap Operand.marks := by
  obtain ⟨x, ys, hx, hys, hmarks⟩ := marks_foldl (fun _ _ _ => by rw [Term.reduce]) h
  rw [Term.reduce] at hx
  exact ⟨x, ys, hx, hys, hmarks⟩

theorem Expression.marks_ofList {first : Term} {rest : List (ArithmeticOp × Term)} {o : Operand}
    (h : (Expression.ofList first rest).reduce = .ok o) :
    ∃ x ys, first.reduce = .ok x ∧
      List.Forall₂ (fun step y => step.2.reduce = .ok y) rest ys ∧
      o.marks = x.marks ++ ys.flatMap Operand.marks := by
  obtain ⟨x, ys, hx, hys, hmarks⟩ := marks_foldl (fun _ _ _ => by rw [Expression.reduce]) h
  rw [Expression.reduce] at hx
  exact ⟨x, ys, hx, hys, hmarks⟩

/-! ## Filters and groupings leave the marks -/

theorem marks_withFilters (filters : Option (List Filter)) (q : Query) :
    (q.withFilters filters).toOperand.marks = q.toOperand.marks := by
  cases q with
  | timeseries t => rfl
  | formula f =>
    show (Operand.formula { f with filters }).marks = (Operand.formula f).marks
    rw [Operand.marks_formula, Operand.marks_formula]
    rfl

theorem marks_withGroupby (groupby : Option (List Column)) (q : Query) :
    (q.withGroupby groupby).toOperand.marks = q.toOperand.marks := by
  cases q with
  | timeseries t => rfl
  | formula f =>
    show (Operand.formula { f with groupby }).marks = (Operand.formula f).marks
    rw [Operand.marks_formula, Operand.marks_formula]
    rfl

theorem marks_addFilter {filters : Option TagFilter} {q q' : Query}
    (h : addFilter filters q = .ok q') : q'.toOperand.marks = q.toOperand.marks := by
  cases filters with
  | none => cases h; rfl
  | some terms =>
    obtain ⟨f, -, h⟩ := bind_eq_ok.1 h
    cases pure_eq_ok.1 h
    exact marks_withFilters _ q

theorem marks_addGroupBy {names : Option (List String)} {q q' : Query}
    (h : addGroupBy names q = .ok q') : q'.toOperand.marks = q.toOperand.marks := by
  cases names with
  | none => cases h; rfl
  | some names =>
    obtain ⟨cs, -, h⟩ := bind_eq_ok.1 h
    cases pure_eq_ok.1 h
    exact marks_withGroupby _ q

/-- A target keeps its marks when it is filtered and grouped. -/
theorem Coefficient.marks_filtered {target : Target} {filters : Option TagFilter}
    {groupBy : Option (List String)} {o : Operand}
    (h : (Coefficient.filtered target filters groupBy).reduce = .ok o) :
    ∃ q q', target.reduce = .ok q ∧ o = Query.toOperand q' ∧
      q'.toOperand.marks = q.toOperand.marks := by
  rw [Coefficient.reduce] at h
  obtain ⟨q, hq, h⟩ := bind_eq_ok.1 h
  obtain ⟨q1, hq1, h⟩ := bind_eq_ok.1 h
  obtain ⟨q2, hq2, h⟩ := bind_eq_ok.1 h
  cases pure_eq_ok.1 h
  exact ⟨q, q2, hq, rfl, by rw [marks_addGroupBy hq2, marks_addFilter hq1]⟩

theorem Target.marks_call {c : Call} {groupBy : Option (List String)} {q : Query}
    (h : (Target.call c groupBy).reduce = .ok q) :
    ∃ q', c.reduce = .ok q' ∧ q.toOperand.marks = q'.toOperand.marks := by
  rw [Target.reduce] at h
  obtain ⟨q', hq', h⟩ := bind_eq_ok.1 h
  exact ⟨q', hq', marks_addGroupBy h⟩

/-- A metric alone is no call. -/
theorem Target.marks_metric {m : MetricRef} {q : Query} (h : (Target.metric m).reduce = .ok q) :
    q.toOperand.marks = [.metric] := by
  rw [Target.reduce] at h
  obtain ⟨metric, -, h⟩ := bind_eq_ok.1 h
  cases pure_eq_ok.1 h
  rfl

theorem Target.marks_nested {e : Expression} {q : Query} (h : (Target.nested e).reduce = .ok q) :
    e.reduce = .ok q.toOperand := by
  rw [Target.reduce] at h
  obtain ⟨o, ho, h⟩ := bind_eq_ok.1 h
  rw [ho]
  cases o <;> cases h <;> rfl

/-! ## Calls -/

theorem Call.marks_aggregate {name : String} {params : Option (List Param)} {inner : Selection}
    {q : Query} (h : (Call.aggregate name params inner).reduce = .ok q) :
    q.toOperand.marks = [.call (params.map fun ps => ps.map Param.toLiteral), .metric] ∨
      q.toOperand.marks = [.metric] := by
  rw [Call.reduce] at h
  obtain ⟨t, -, h⟩ := bind_eq_ok.1 h
  cases pure_eq_ok.1 h
  show Timeseries.marks _ = _ ∨ Timeseries.marks _ = _
  unfold Timeseries.marks
  split
  · exact .inl rfl
  · exact .inr rfl

theorem Call.marks_function {name : String} {args : List Expression} {q : Query}
    (h : (Call.function name none args).reduce = .ok q) :
    ∃ ys, reduceArguments args = .ok ys ∧
      q.toOperand.marks = (Formula.new name ys).headMarks ++ ys.flatMap Operand.marks := by
  rw [Call.reduce] at h
  obtain ⟨ys, hys, h⟩ := bind_eq_ok.1 h
  refine ⟨ys, hys, ?_⟩
  unfold Surface.apply applyFunction at h
  dsimp only at h
  split at h
  · cases h
  · cases h
    exact Operand.marks_formula _

theorem bareMetric?_marks {ys : List Operand} {t : Timeseries} (h : bareMetric? ys = some t)
    (hlen : ys.length = 1) : ys.flatMap Operand.marks = [.metric] := by
  match ys, hlen with
  | [.timeseries t'], _ =>
    simp only [bareMetric?] at h
    split at h
    · cases h
    · rename_i hagg
      simp [Operand.marks_timeseries, Timeseries.marks, hagg]
  | [.formula f], _ => cases h
  | [.int n], _ => cases h
  | [.float x], _ => cases h
  | [.string s], _ => cases h

theorem Call.marks_curried {name : String} {params : List Param} {args : List Expression}
    {q : Query} (h : (Call.function name (some params) args).reduce = .ok q) :
    ∃ ys, reduceArguments args = .ok ys ∧
      (q.toOperand.marks = .call (some (params.map Param.toLiteral)) :: ys.flatMap Operand.marks ∨
        q.toOperand.marks = [.metric]) := by
  rw [Call.reduce] at h
  obtain ⟨ys, hys, h⟩ := bind_eq_ok.1 h
  refine ⟨ys, hys, ?_⟩
  unfold Surface.apply applyCurried at h
  dsimp only at h
  split at h
  · rename_i t ht
    split at h
    · rename_i hlen
      cases h
      rw [bareMetric?_marks ht hlen]
      show Timeseries.marks _ = _ ∨ Timeseries.marks _ = _
      unfold Timeseries.marks
      split
      · exact .inl rfl
      · exact .inr rfl
    · cases h
  · cases h
    refine .inl ?_
    show (Operand.formula _).marks = _
    rw [Operand.marks_formula]
    rfl

/-! ## Minus -/

/-- A minus leaves the mark of a call without parameters, or stands in front of a number. -/
theorem negated_marks {o o' : Operand} (h : negated o = .ok o') :
    o'.marks = .call none :: o.marks ∨ o'.marks = [.literal] := by
  cases o with
  | int n => cases h; exact .inr rfl
  | float x => cases h; exact .inr rfl
  | string s => cases h
  | timeseries t => cases h; exact .inl (Operand.marks_negation _)
  | formula f => cases h; exact .inl (Operand.marks_negation _)

theorem negated_toOperand (q : Query) :
    negated q.toOperand = .ok (.formula (.new negation [q.toOperand])) := by
  cases q <;> rfl

end Surface

end MetricQuery
