import MetricQuery.Proofs.QueryText

/-!
# Chains of operations

A chain is written as operands with signs between them, and no parentheses around any of its
operations.  It is read as runs of products, each of them from left to right, that are added and
subtracted from left to right.

* `Chain.print`        : the text of a chain;
* `Chain.value`        : the formula that a chain stands for;
* `Grammar.steps_read` : the steps of a chain are read one by one;
* `Chain.parse_chain`  : a chain of printable operands is read as its formula.
-/

set_option autoImplicit false

namespace MetricQuery

open Grammar Scanner Surface Outcome

/-! ## Chains -/

/-- An operand, and operands behind it with a sign in front of each. -/
structure Chain where
  first : Operand
  steps : List (ArithmeticOp × Operand)

namespace Chain

/-- The operands of a chain. -/
def operands (c : Chain) : List Operand := c.first :: c.steps.map Prod.snd

/-- The text of signs and the operands behind them, with single blanks around the signs. -/
def printSteps : List (ArithmeticOp × Operand) → Except Refusal String
  | [] => pure ""
  | (op, o) :: rest => do
    let text ← o.print
    let others ← printSteps rest
    pure (" " ++ op.sign ++ " " ++ text ++ others)

/-- The text of a chain. -/
def print (c : Chain) : Except Refusal String := do
  let text ← c.first.print
  let others ← printSteps c.steps
  pure (text ++ others)

/-- Operations from left to right. -/
def leftToRight (first : Operand) (steps : List (ArithmeticOp × Operand)) : Operand :=
  steps.foldl (fun lhs step => .formula (.new step.1.name [lhs, step.2])) first

/-- The products that steps start with, as many as there are. -/
def products (steps : List (ArithmeticOp × Operand)) : List (ArithmeticOp × Operand) :=
  steps.takeWhile fun step => step.1.isProduct

/-- The terms behind the first one: one for each sign of a sum, which is the operand behind the sign
with the products that follow it. -/
def summands : List (ArithmeticOp × Operand) → List (ArithmeticOp × Operand)
  | [] => []
  | (op, o) :: rest =>
    if op.isProduct then summands rest else (op, leftToRight o (products rest)) :: summands rest

/-- What a chain stands for: products first, and then sums. -/
def value (c : Chain) : Operand :=
  leftToRight (leftToRight c.first (products c.steps)) (summands c.steps)

/-- The chain with several filters of one node joined, in every operand. -/
def united (c : Chain) : Chain :=
  ⟨c.first.united, c.steps.map fun step => (step.1, step.2.united)⟩

/-- Every node of every operand is printable. -/
def IsPrintable (c : Chain) : Prop := ∀ o ∈ c.operands, ∀ n ∈ o.nodes, n.IsPrintable

theorem leftToRight_cons (first : Operand) (op : ArithmeticOp) (o : Operand)
    (rest : List (ArithmeticOp × Operand)) :
    leftToRight first ((op, o) :: rest) =
      leftToRight (.formula (.new op.name [first, o])) rest := rfl

theorem exists_formula_of_leftToRight (f : Formula) (steps : List (ArithmeticOp × Operand)) :
    ∃ g, leftToRight (.formula f) steps = .formula g := by
  induction steps generalizing f with
  | nil => exact ⟨f, rfl⟩
  | cons step rest ih => exact ih _

section

variable {op : ArithmeticOp} {o : Operand} {rest : List (ArithmeticOp × Operand)}

theorem products_cons (h : op.isProduct = true) :
    products ((op, o) :: rest) = (op, o) :: products rest :=
  List.takeWhile_cons_of_pos h

theorem products_sum (h : op.isProduct = false) : products ((op, o) :: rest) = [] :=
  List.takeWhile_cons_of_neg (by simp [h])

theorem summands_product (h : op.isProduct = true) :
    summands ((op, o) :: rest) = summands rest := by
  simp [summands, h]

theorem summands_cons (h : op.isProduct = false) :
    summands ((op, o) :: rest) = (op, leftToRight o (products rest)) :: summands rest := by
  simp [summands, h]

end

/-- A chain of two operands or more is a formula. -/
theorem exists_formula {c : Chain} (h : c.steps ≠ []) : ∃ f, c.value = .formula f := by
  obtain ⟨first, steps⟩ := c
  cases steps with
  | nil => exact absurd rfl h
  | cons step rest =>
    obtain ⟨op, o⟩ := step
    cases hop : op.isProduct with
    | true =>
      obtain ⟨f, hf⟩ := exists_formula_of_leftToRight (.new op.name [first, o]) (products rest)
      rw [value, products_cons hop, leftToRight_cons, hf]
      exact exists_formula_of_leftToRight f _
    | false =>
      rw [value, summands_cons hop, leftToRight_cons]
      exact exists_formula_of_leftToRight _ _

/-- Products come first, and each kind goes from left to right. -/
example (a b c d : Operand) :
    (⟨a, [(.minus, b), (.multiply, c), (.divide, d), (.plus, a)]⟩ : Chain).value =
      .formula (.new "plus" [.formula (.new "minus" [a, .formula (.new "divide"
        [.formula (.new "multiply" [b, c]), d])]), a]) := rfl

end Chain

/-! ## Printable operands -/

namespace Operand

variable {o : Operand}

theorem isWritable_of_printable (h : ∀ n ∈ o.nodes, n.IsPrintable) : o.IsWritable :=
  fun n hn => ⟨(h n hn).form.hasShape, (h n hn).complete⟩

/-- A printable operand is read back with joined filters, in front of all but a parenthesis. -/
theorem readsAs_united (h : ∀ n ∈ o.nodes, n.IsPrintable) {r : List Char} (hr : Follows r)
    (hparen : r.head? ≠ some '(') : o.ReadsAs r o.united := by
  have hwritable := isWritable_of_printable h
  have hnormal : o.IsNormal := fun n hn => (h n hn).form
  exact (hwritable.readsBack hnormal).same r hr (rereads_of_guarded
    (fun n hn => (h n hn).regular) hwritable (fun n hn => (h n hn).guarded) hparen)

end Operand

namespace Grammar

/-! ## The steps of a chain -/

/-- What is written behind the first operand of a chain. -/
def stepsTail : List (ArithmeticOp × Operand) → List Char
  | [] => []
  | (op, o) :: rest => ' ' :: (op.sign.toList ++ ' ' :: (o.text.toList ++ stepsTail rest))

theorem follows_stepsTail (steps : List (ArithmeticOp × Operand)) : Follows (stepsTail steps) := by
  cases steps with
  | nil => exact .inl rfl
  | cons step rest => exact .inr (.inr ⟨step.1, _, rfl⟩)

theorem head?_stepsTail_ne (steps : List (ArithmeticOp × Operand)) :
    (stepsTail steps).head? ≠ some '(' :=
  (follows_stepsTail steps).head?_ne (by decide) (by decide) (by decide)

/-- What is found behind a sign stands for the operand behind the sign. -/
def StandsFor {α : Type} (reduce : α → Except QueryError Operand) (found : ArithmeticOp × α)
    (step : ArithmeticOp × Operand) : Prop :=
  found.1 = step.1 ∧ reduce found.2 = .ok step.2

/-- What is read from left to right stands for operations from left to right. -/
theorem reduce_foldl {α β : Type} {reduceLhs : α → Except QueryError Operand}
    {reduceRhs : β → Except QueryError Operand} {binary : α → ArithmeticOp → β → α}
    (hbinary : ∀ a op b, reduceLhs (binary a op b) = (do
      let x ← reduceLhs a
      let y ← reduceRhs b
      pure (.formula (.arithmetic op x y))))
    {found : List (ArithmeticOp × β)} {steps : List (ArithmeticOp × Operand)}
    (h : List.Forall₂ (StandsFor reduceRhs) found steps) : ∀ {first : α} {x : Operand},
      reduceLhs first = .ok x →
        reduceLhs (found.foldl (fun lhs step => binary lhs step.1 step.2) first) =
          .ok (Chain.leftToRight x steps) := by
  induction h with
  | nil => exact fun {_ _} hx => hx
  | @cons a step found steps ha _ ih =>
    intro first x hx
    obtain ⟨hop, hreduce⟩ := ha
    refine ih ?_
    rw [hbinary, bind_of_ok _ hx, bind_of_ok _ hreduce, hop]
    rfl

theorem reduce_ofList_term {u : Unary} {x : Operand} {us : List (ArithmeticOp × Unary)}
    {steps : List (ArithmeticOp × Operand)} (hu : u.reduce = .ok x)
    (h : List.Forall₂ (StandsFor Unary.reduce) us steps) :
    (Term.ofList u us).reduce = .ok (Chain.leftToRight x steps) :=
  reduce_foldl (fun _ _ _ => by rw [Term.reduce]) h (by rw [Term.reduce, hu])

theorem reduce_ofList_expression {t : Term} {x : Operand} {ts : List (ArithmeticOp × Term)}
    {steps : List (ArithmeticOp × Operand)} (ht : t.reduce = .ok x)
    (h : List.Forall₂ (StandsFor Term.reduce) ts steps) :
    (Expression.ofList t ts).reduce = .ok (Chain.leftToRight x steps) :=
  reduce_foldl (fun _ _ _ => by rw [Expression.reduce]) h (by rw [Expression.reduce, ht])

section

variable {s t : List Char} {op : ArithmeticOp}

/-- A step of a product is read. -/
theorem furtherUnary_sign {u : Unary} (hop : op.isProduct = true) (hs : Stops Text.isBlank s)
    (hu : unary expression s = some (u, t)) :
    furtherUnary (' ' :: (op.sign.toList ++ ' ' :: s)) = some ((op, u), t) := by
  unfold furtherUnary
  rw [bind_of_some _ (sign_of_isProduct hop hs).1, bind_of_some _ hu, pure_apply]

/-- A step of a sum is read, with the products behind its first operand. -/
theorem furtherSummand_sign {u : Unary} {us : List (ArithmeticOp × Unary)} {r : List Char}
    (hop : op.isProduct = false) (hs : Stops Text.isBlank s)
    (hu : unary expression s = some (u, t)) (hus : many furtherUnary t = some (us, r)) :
    furtherSummand (' ' :: (op.sign.toList ++ ' ' :: s)) = some ((op, .ofList u us), r) := by
  unfold furtherSummand
  rw [bind_of_some _ (sign_of_not_isProduct hop hs).1, term_eq]
  refine (bind_of_some _ ?_).trans (pure_apply _ _)
  rw [bind_of_some _ hu, bind_of_some _ hus, pure_apply]

theorem length_lt_sign (h : t.length ≤ s.length) :
    t.length < (' ' :: (op.sign.toList ++ ' ' :: s)).length := by
  simp only [List.length_cons, List.length_append]
  omega

end

instance : Shrinks furtherUnary := by unfold furtherUnary; infer_instance

/-- **The steps of a chain are read one by one**: first those of products, which belong to the term
that was started, and then those of sums, each with its own products. -/
theorem steps_read {steps : List (ArithmeticOp × Operand)}
    (h : ∀ step ∈ steps, ∀ n ∈ step.2.nodes, n.IsPrintable) :
    ∃ us s ts, many furtherUnary (stepsTail steps) = some (us, s) ∧
      many furtherSummand s = some (ts, []) ∧
      List.Forall₂ (StandsFor Unary.reduce) us
        (Chain.products (steps.map fun step => (step.1, step.2.united))) ∧
      List.Forall₂ (StandsFor Term.reduce) ts
        (Chain.summands (steps.map fun step => (step.1, step.2.united))) := by
  induction steps with
  | nil =>
    have hunary : furtherUnary [] = none :=
      furtherUnary_eq_none (by simp [Text.trimStart]) (by simp [Text.trimStart])
    have hsummand : furtherSummand [] = none :=
      furtherSummand_eq_none (by simp [Text.trimStart]) (by simp [Text.trimStart])
    exact ⟨[], [], [], many_nil hunary, many_nil hsummand, .nil, .nil⟩
  | cons step rest ih =>
    obtain ⟨op, o⟩ := step
    obtain ⟨us, s, ts, hus, hts, hproducts, hsummands⟩ := ih fun step hstep =>
      h step (List.mem_cons_of_mem _ hstep)
    have ho : ∀ n ∈ o.nodes, n.IsPrintable := h (op, o) List.mem_cons_self
    obtain ⟨u, hu, hreduce⟩ :=
      Operand.readsAs_united ho (follows_stepsTail rest) (head?_stepsTail_ne rest)
    have hblank : Stops Text.isBlank (o.text.toList ++ stepsTail rest) :=
      (Operand.isWritable_of_printable ho).isOperandText.stops_isBlank _
    rw [List.map_cons, stepsTail]
    cases hop : op.isProduct with
    | true =>
      rw [Chain.products_cons hop, Chain.summands_product hop]
      exact ⟨(op, u) :: us, s, ts,
        many_cons (furtherUnary_sign hop hblank hu) (length_lt_sign (Shrinks.length_le hu)) hus,
        hts, .cons ⟨rfl, hreduce⟩ hproducts, hsummands⟩
    | false =>
      have hshort : s.length ≤ (o.text.toList ++ stepsTail rest).length :=
        Nat.le_trans (Shrinks.length_le hus) (Shrinks.length_le hu)
      rw [Chain.products_sum hop, Chain.summands_cons hop]
      exact ⟨[], _, (op, .ofList u us) :: ts, many_nil (sign_of_not_isProduct hop hblank).2,
        many_cons (furtherSummand_sign hop hblank hu hus) (length_lt_sign hshort) hts, .nil,
        .cons ⟨rfl, reduce_ofList_term hreduce hproducts⟩ hsummands⟩

/-- **A chain is read as an expression with its value.** -/
theorem expression_chain {c : Chain} (h : c.IsPrintable) :
    ∃ e, expression (c.first.text.toList ++ stepsTail c.steps) = some (e, []) ∧
      e.reduce = .ok c.united.value := by
  have hfirst : ∀ n ∈ c.first.nodes, n.IsPrintable := h _ List.mem_cons_self
  obtain ⟨u, hu, hreduce⟩ :=
    Operand.readsAs_united hfirst (follows_stepsTail c.steps) (head?_stepsTail_ne c.steps)
  obtain ⟨us, s, ts, hus, hts, hproducts, hsummands⟩ := steps_read fun step hstep =>
    h step.2 (List.mem_cons_of_mem _ (List.mem_map_of_mem hstep))
  have hterm : term expression (c.first.text.toList ++ stepsTail c.steps) =
      some (.ofList u us, s) := by
    rw [term_eq, bind_of_some _ hu, bind_of_some _ hus, pure_apply]
  refine ⟨.ofList (.ofList u us) ts, ?_, ?_⟩
  · rw [expression_eq_steps, bind_of_some _ hterm, bind_of_some _ hts, pure_apply]
  · exact reduce_ofList_expression (reduce_ofList_term hreduce hproducts) hsummands

end Grammar

/-! ## Texts of chains -/

/-- The text ends with a character that is no blank. -/
def EndsVisible (s : List Char) : Prop := ∃ w c, s = w ++ [c] ∧ Text.isBlank c = false

theorem EndsVisible.append {s : List Char} (h : EndsVisible s) (front : List Char) :
    EndsVisible (front ++ s) := by
  obtain ⟨w, c, rfl, hc⟩ := h
  exact ⟨front ++ w, c, (List.append_assoc ..).symm, hc⟩

theorem endsVisible_of_forall {s : List Char} (hne : s ≠ []) (h : ∀ c ∈ s, Text.isBlank c = false) :
    EndsVisible s :=
  ⟨s.dropLast, s.getLast hne, (List.dropLast_append_getLast hne).symm, h _ (List.getLast_mem hne)⟩

theorem isBlank_of_digit {c : Char} (h : c.isDigit = true ∨ c = '.') : Text.isBlank c = false :=
  isBlank_of_isNameChar (isNameChar_of_digit h)

theorem Grammar.IsLiteralText.endsVisible {s : List Char} (h : IsLiteralText s) :
    EndsVisible s := by
  cases h with
  | @int m _ =>
    obtain ⟨hne, hall⟩ := isNumeral_toDigits m
    exact endsVisible_of_forall hne fun c hc => isBlank_of_digit (.inl (hall c hc))
  | float _ hfraction =>
    refine EndsVisible.append (endsVisible_of_forall (by simp) fun c hc => isBlank_of_digit ?_) _
    rcases List.mem_cons.1 hc with rfl | hc
    · exact .inr rfl
    · exact .inl (hfraction.2 c hc)
  | negative hall =>
    refine endsVisible_of_forall (by simp) fun c hc => ?_
    rcases List.mem_cons.1 hc with rfl | hc
    · decide
    · exact isBlank_of_digit (hall c hc)
  | quoted s =>
    rw [Text.toList_quote]
    exact ⟨'"' :: s.toList.flatMap Text.escape, '"', by simp, by decide⟩

/-- The text of an operand ends with a character that is no blank. -/
theorem Operand.IsWritable.endsVisible {o : Operand} (h : o.IsWritable) :
    EndsVisible o.text.toList := by
  cases o with
  | int n => exact (isLiteralText_int (isWritable_int.1 h)).endsVisible
  | float x => exact (isLiteralText_float (isWritable_float.1 h)).endsVisible
  | string s => exact (IsLiteralText.quoted s).endsVisible
  | timeseries t => exact Query.text_ends (q := .timeseries t) h
  | formula f => exact Query.text_ends (q := .formula f) h

namespace Chain

theorem printSteps_eq {steps : List (ArithmeticOp × Operand)}
    (h : ∀ step ∈ steps, step.2.IsWritable) :
    ∃ text, printSteps steps = .ok text ∧ text.toList = stepsTail steps := by
  induction steps with
  | nil => exact ⟨"", rfl, rfl⟩
  | cons step rest ih =>
    obtain ⟨op, o⟩ := step
    obtain ⟨text, htext, heq⟩ := ih fun step hstep => h step (List.mem_cons_of_mem _ hstep)
    refine ⟨" " ++ op.sign ++ " " ++ o.text ++ text, ?_, by simp [stepsTail, heq]⟩
    rw [printSteps, bind_of_ok _ (h (op, o) List.mem_cons_self).print_eq, bind_of_ok _ htext]
    rfl

/-- The last operand ends the text of a chain. -/
theorem endsVisible_text {first : Operand} {steps : List (ArithmeticOp × Operand)}
    (hfirst : first.IsWritable) (h : ∀ step ∈ steps, step.2.IsWritable) :
    EndsVisible (first.text.toList ++ stepsTail steps) := by
  induction steps generalizing first with
  | nil =>
    rw [stepsTail, List.append_nil]
    exact hfirst.endsVisible
  | cons step rest ih =>
    obtain ⟨op, o⟩ := step
    have hrest := ih (h (op, o) List.mem_cons_self) fun step hstep =>
      h step (List.mem_cons_of_mem _ hstep)
    have htail : stepsTail ((op, o) :: rest) =
        (' ' :: (op.sign.toList ++ [' '])) ++ (o.text.toList ++ stepsTail rest) := by
      simp [stepsTail]
    rw [htail]
    exact (hrest.append _).append _

/-- **Products bind closer than sums, and both go from left to right.**  A chain of two printable
operands or more is written, and read as the formula that it stands for, over the operands with joined
filters. -/
theorem parse_chain {c : Chain} (h : c.IsPrintable) (hsteps : c.steps ≠ []) :
    ∃ text q, c.print = .ok text ∧ Query.parse text = .ok q ∧
      q.toOperand = c.united.value := by
  have hfirst : c.first.IsWritable :=
    Operand.isWritable_of_printable (h _ List.mem_cons_self)
  have hrest : ∀ step ∈ c.steps, step.2.IsWritable := fun step hstep =>
    Operand.isWritable_of_printable (h step.2 (List.mem_cons_of_mem _ (List.mem_map_of_mem hstep)))
  obtain ⟨tail, htail, heq⟩ := printSteps_eq hrest
  obtain ⟨f, hf⟩ := exists_formula (c := c.united) (by simpa [united] using hsteps)
  obtain ⟨e, he, hreduce⟩ := expression_chain h
  obtain ⟨w, d, hends, hd⟩ := endsVisible_text hfirst hrest
  have htext : (c.first.text ++ tail).toList = c.first.text.toList ++ stepsTail c.steps := by
    rw [String.toList_append, heq]
  refine ⟨c.first.text ++ tail, .formula f, ?_, Query.parse_eq_ok.2 ⟨e, ?_, ?_⟩, hf.symm⟩
  · rw [print, bind_of_ok _ hfirst.print_eq, bind_of_ok _ htail]
    rfl
  · rw [htext, trim_of_stops hends (hfirst.isOperandText.stops_isBlank _) hd, he]
  · rw [Query.query_eq_ok, hreduce, hf]
    rfl

/-- A negated series with two filters, and numbers with a sign and a text of one as operands. -/
theorem parse_chain_minus :
    let t : Timeseries := ⟨.ofMri "d:a/b-c@e", "sum", none,
      some [.condition (.ofColumn "k" .eq (.string "v")),
        .condition (.ofColumn "l" .like (.string "w*"))], none⟩
    let c : Chain := ⟨.int 1, [(.minus, .formula (.new negation [.timeseries t])),
      (.multiply, .int (-2)), (.divide, .string "*")]⟩
    c.IsPrintable ∧ c.steps ≠ [] ∧
    c.print = .ok "1 - -(sum(d:a/b-c@e)\x7bk:\"v\" AND l:\"w*\"\x7d) * -2 / \"*\"" ∧
    ∃ text q, c.print = .ok text ∧ Query.parse text = .ok q ∧ q.toOperand = c.united.value := by
  intro t c
  have hcolumn : ∀ name ∈ ["k", "l"], Column.IsWritable ⟨name⟩ := by
    intro name hname
    rcases List.mem_pair.1 hname with rfl | rfl <;> exact ⟨by decide, by decide⟩
  have hfilters : ∀ f ∈ t.filters.getD [], f.IsNormal := by
    simp only [t, Option.getD_some, List.forall_mem_cons, List.not_mem_nil, false_imp_iff,
      implies_true, and_true]
    exact ⟨.condition (.mk (hcolumn _ (by simp)) (.exact (.inl rfl) (by decide))),
      .condition (.mk (hcolumn _ (by simp)) (.pattern (.inl rfl) (by decide)))⟩
  have ht : (Operand.timeseries t).IsPrintable := by
    refine ⟨⟨.mri ⟨by decide, by decide, by decide⟩, isCallName_of_isFunctionName (by decide),
      by simp [AreUnsigned, t], ⟨by simp [t], hfilters, by simp [t], by simp [t]⟩⟩, by decide, ?_,
      fun mri hmri => ?_⟩
    · show AreFinite t.parameters
      simp [AreFinite, t]
    · cases hmri
      exact .of_notMem (by decide) (by decide)
  have hnegated : (Operand.formula (.new negation [.timeseries t])).IsPrintable :=
    ⟨⟨isCallName_negation, by simp [AreUnsigned, Formula.new], by simp [Formula.new],
      isSelection_none⟩, by decide,
      ⟨by simp [AreFinite, Formula.new], fun _ => ⟨rfl, .timeseries t, rfl⟩⟩, trivial⟩
  have hint : ∀ {n : Int64}, Int64.minValue < n → (Operand.int n).IsPrintable :=
    fun hn => ⟨hn, trivial, trivial, trivial⟩
  have hc : c.IsPrintable := by
    simp only [Chain.IsPrintable, operands, c, List.map_cons, List.map_nil, List.forall_mem_cons,
      List.not_mem_nil, false_imp_iff, implies_true, and_true, Operand.nodes, Formula.nodes,
      Operand.nodesAll, Formula.new, List.append_nil]
    exact ⟨hint (by decide), ⟨hnegated, ht⟩, hint (by decide), trivial, trivial, trivial, trivial⟩
  have hprint : c.print =
      .ok "1 - -(sum(d:a/b-c@e)\x7bk:\"v\" AND l:\"w*\"\x7d) * -2 / \"*\"" :=
    eq_ok_of_toOption (by decide +kernel)
  have hsteps : c.steps ≠ [] := by simp [c]
  exact ⟨hc, hsteps, hprint, parse_chain hc hsteps⟩

end Chain

end MetricQuery
