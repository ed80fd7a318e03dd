import MetricQuery.Proofs.TargetText

/-!
# Expressions in a text

An expression starts with a signed coefficient, and so do its marks.  Where the coefficient is read
as it was written, so is the sign behind it; where it is not, the marks depart for good.

* `expression_of_unary`, `astray_expression` : an expression that is one coefficient;
* `expression_operation`                     : two coefficients with a sign between them;
* `operation_starts`                         : what is read there has the marks of both, in order.
-/

set_option autoImplicit false

namespace MetricQuery

/-- Multiplication and division, which bind closer than addition and subtraction. -/
def ArithmeticOp.isProduct : ArithmeticOp → Bool
  | multiply | divide => true
  | plus | minus => false

namespace Grammar

open Scanner Surface Outcome

/-! ## The steps of an expression -/

/-- A sign of a product and the coefficient behind it. -/
def furtherUnary : Scanner (ArithmeticOp × Unary) := do
  let op ← operator ('*', .multiply) ('/', .divide)
  let u ← unary expression
  pure (op, u)

/-- A sign of a sum and the term behind it. -/
def furtherSummand : Scanner (ArithmeticOp × Term) := do
  let op ← operator ('+', .plus) ('-', .minus)
  let t ← term expression
  pure (op, t)

theorem term_eq : term expression = (do
    let first ← unary expression
    let rest ← many furtherUnary
    pure (.ofList first rest)) := rfl

theorem expression_eq_steps : expression = (do
    let first ← term expression
    let rest ← many furtherSummand
    pure (.ofList first rest)) := expression_eq

section

variable {s r : List Char}

theorem operator_eq_none {first second : Char × ArithmeticOp}
    (hfirst : (Text.trimStart s).head? ≠ some first.1)
    (hsecond : (Text.trimStart s).head? ≠ some second.1) : operator first second s = none := by
  unfold operator
  refine (bind_of_some _ (blanks_apply s)).trans (bind_of_none _ ?_)
  rw [firstOf_of_none _ (bind_of_none _ (char_eq_none hfirst)),
    firstOf_of_none _ (bind_of_none _ (char_eq_none hsecond)), firstOf_nil]

theorem furtherUnary_eq_none (hmultiply : (Text.trimStart s).head? ≠ some '*')
    (hdivide : (Text.trimStart s).head? ≠ some '/') : furtherUnary s = none :=
  bind_of_none _ (operator_eq_none hmultiply hdivide)

theorem furtherSummand_eq_none (hplus : (Text.trimStart s).head? ≠ some '+')
    (hminus : (Text.trimStart s).head? ≠ some '-') : furtherSummand s = none :=
  bind_of_none _ (operator_eq_none hplus hminus)

/-- No sign comes at the end of an expression. -/
theorem head?_trimStart_end {c : Char} (hr : r = [] ∨ Closes r) (hcomma : c ≠ ',')
    (hparen : c ≠ ')') : (Text.trimStart r).head? ≠ some c := by
  rcases hr with rfl | hr
  · simp [Text.trimStart]
  · rw [hr.trimStart_eq]
    exact hr.head?_ne hcomma hparen

theorem term_of_unary {u : Unary} (hu : unary expression s = some (u, r))
    (hr : furtherUnary r = none) : term expression s = some (.unary u, r) := by
  rw [term_eq, bind_of_some _ hu, bind_of_some _ (many_nil hr), pure_apply]
  rfl

theorem expression_of_term {t : Term} (ht : term expression s = some (t, r))
    (hr : furtherSummand r = none) : expression s = some (.term t, r) := by
  rw [expression_eq_steps, bind_of_some _ ht, bind_of_some _ (many_nil hr), pure_apply]
  rfl

/-- **A coefficient at the end of an expression is the expression.** -/
theorem expression_of_unary {u : Unary} (hu : unary expression s = some (u, r))
    (hr : r = [] ∨ Closes r) : expression s = some (.term (.unary u), r) :=
  expression_of_term
    (term_of_unary hu (furtherUnary_eq_none (head?_trimStart_end hr (by decide) (by decide))
      (head?_trimStart_end hr (by decide) (by decide))))
    (furtherSummand_eq_none (head?_trimStart_end hr (by decide) (by decide))
      (head?_trimStart_end hr (by decide) (by decide)))

theorem reduce_unary (u : Unary) : (Expression.term (.unary u)).reduce = u.reduce := by
  rw [Expression.reduce, Term.reduce]

/-- A term starts with a coefficient and goes on with coefficients behind signs. -/
theorem term_eq_some {t : Term} (h : term expression s = some (t, r)) :
    ∃ u us s', unary expression s = some (u, s') ∧ many furtherUnary s' = some (us, r) ∧
      t = .ofList u us := by
  rw [term_eq] at h
  obtain ⟨u, s', hu, h⟩ := bind_eq_some_iff.1 h
  obtain ⟨us, t', hus, h⟩ := bind_eq_some_iff.1 h
  cases h
  exact ⟨u, us, s', hu, hus, rfl⟩

theorem expression_eq_some {e : Expression} (h : expression s = some (e, r)) :
    ∃ t ts s', term expression s = some (t, s') ∧ many furtherSummand s' = some (ts, r) ∧
      e = .ofList t ts := by
  rw [expression_eq_steps] at h
  obtain ⟨t, s', ht, h⟩ := bind_eq_some_iff.1 h
  obtain ⟨ts, t', hts, h⟩ := bind_eq_some_iff.1 h
  cases h
  exact ⟨t, ts, s', ht, hts, rfl⟩

/-- The marks of a term start with those of its first coefficient. -/
theorem term_starts {t : Term} {o : Operand} (h : term expression s = some (t, r))
    (ho : t.reduce = .ok o) :
    ∃ u s' x more, unary expression s = some (u, s') ∧ u.reduce = .ok x ∧
      o.marks = x.marks ++ more := by
  obtain ⟨u, us, s', hu, -, rfl⟩ := term_eq_some h
  obtain ⟨x, ys, hx, -, hmarks⟩ := Term.marks_ofList ho
  exact ⟨u, s', x, _, hu, hx, hmarks⟩

/-- **The marks of an expression start with those of its first coefficient.** -/
theorem expression_starts {e : Expression} {o : Operand} (h : expression s = some (e, r))
    (ho : e.reduce = .ok o) :
    ∃ u s' x more, unary expression s = some (u, s') ∧ u.reduce = .ok x ∧
      o.marks = x.marks ++ more := by
  obtain ⟨t, ts, s', ht, -, rfl⟩ := expression_eq_some h
  obtain ⟨y, ys, hy, -, hmarks⟩ := Expression.marks_ofList ho
  obtain ⟨u, s'', x, more, hu, hx, hmarks'⟩ := term_starts ht hy
  exact ⟨u, s'', x, more ++ ys.flatMap Operand.marks, hu, hx, by
    rw [hmarks, hmarks', List.append_assoc]⟩

/-- A departure in the first coefficient is one of the whole expression. -/
theorem astray_expression {ms : List Mark} (h : Astray Unary.reduce ms (unary expression s))
    (more : List Mark) : Astray Expression.reduce (ms ++ more) (expression s) := by
  intro e t he o ho
  obtain ⟨u, s', x, more', hu, hx, hmarks⟩ := expression_starts he ho
  rw [hmarks]
  exact (h u s' hu x hx).append more more'

/-! ## Parentheses -/

theorem astray_parens {α : Type} {p : Scanner α} {reduce : α → Except QueryError Operand}
    {ms : List Mark} (hs : Stops Text.isBlank s)
    (h : ∀ a t, p s = some (a, t) → (Text.trimStart t).head? = some ')' →
      ∀ o, reduce a = .ok o → Departs ms o.marks) :
    Astray reduce ms (parens p ('(' :: s)) := by
  intro a t hread o ho
  obtain ⟨s', u, hs', hbody, hclose⟩ := parens_eq_some hread
  cases hs'
  rw [trimStart_of_stops hs] at hbody
  exact h a u hbody (by rw [hclose]; rfl) o ho

/-! ## Operations -/

theorem operator_first {first second : Char × ArithmeticOp}
    (hblank : Text.isBlank first.1 = false) (hs : Stops Text.isBlank s) :
    operator first second (' ' :: first.1 :: ' ' :: s) = some (first.2, s) := by
  have htrim : Text.trimStart (' ' :: first.1 :: ' ' :: s) = first.1 :: ' ' :: s := by
    rw [trimStart_space, trimStart_of_stops (stops_cons.2 hblank)]
  unfold operator
  refine (bind_of_some _ (blanks_apply _)).trans ?_
  rw [htrim]
  refine (bind_of_some _ (firstOf_of_some _ (bind_of_some _ (char_cons_self _ _)))).trans ?_
  rw [bind_of_some _ (blanks_apply _), trimStart_space, trimStart_of_stops hs, pure_apply]

theorem operator_second {first second : Char × ArithmeticOp} (hne : second.1 ≠ first.1)
    (hblank : Text.isBlank second.1 = false) (hs : Stops Text.isBlank s) :
    operator first second (' ' :: second.1 :: ' ' :: s) = some (second.2, s) := by
  have htrim : Text.trimStart (' ' :: second.1 :: ' ' :: s) = second.1 :: ' ' :: s := by
    rw [trimStart_space, trimStart_of_stops (stops_cons.2 hblank)]
  unfold operator
  refine (bind_of_some _ (blanks_apply _)).trans ?_
  rw [htrim]
  refine (bind_of_some _ ((firstOf_of_none _ (bind_of_none _ (char_cons_ne hne _))).trans
    (firstOf_of_some _ (bind_of_some _ (char_cons_self _ _))))).trans ?_
  rw [bind_of_some _ (blanks_apply _), trimStart_space, trimStart_of_stops hs, pure_apply]

theorem head?_sign_of_ne {c d : Char} (hc : Text.isBlank c = false) (hne : c ≠ d) (t : List Char) :
    (Text.trimStart (' ' :: c :: t)).head? ≠ some d := by
  rw [trimStart_space]
  exact head?_trimStart_ne hc hne t

/-- The sign of a product is read by the next step of a term, and by none of an expression. -/
theorem sign_of_isProduct {op : ArithmeticOp} (h : op.isProduct = true) (hs : Stops Text.isBlank s) :
    operator ('*', .multiply) ('/', .divide) (' ' :: (op.sign.toList ++ ' ' :: s)) = some (op, s) ∧
      furtherSummand (' ' :: (op.sign.toList ++ ' ' :: s)) = none := by
  cases op with
  | plus => cases h
  | minus => cases h
  | multiply =>
    exact ⟨@operator_first _ ('*', .multiply) _ (by decide) hs, furtherSummand_eq_none
      (head?_sign_of_ne (by decide) (by decide) _) (head?_sign_of_ne (by decide) (by decide) _)⟩
  | divide =>
    exact ⟨@operator_second _ _ ('/', .divide) (by decide) (by decide) hs, furtherSummand_eq_none
      (head?_sign_of_ne (by decide) (by decide) _) (head?_sign_of_ne (by decide) (by decide) _)⟩

/-- The sign of a sum stops a term, and is read by the next step of an expression. -/
theorem sign_of_not_isProduct {op : ArithmeticOp} (h : op.isProduct = false)
    (hs : Stops Text.isBlank s) :
    operator ('+', .plus) ('-', .minus) (' ' :: (op.sign.toList ++ ' ' :: s)) = some (op, s) ∧
      furtherUnary (' ' :: (op.sign.toList ++ ' ' :: s)) = none := by
  cases op with
  | plus =>
    exact ⟨@operator_first _ ('+', .plus) _ (by decide) hs, furtherUnary_eq_none
      (head?_sign_of_ne (by decide) (by decide) _) (head?_sign_of_ne (by decide) (by decide) _)⟩
  | minus =>
    exact ⟨@operator_second _ _ ('-', .minus) (by decide) (by decide) hs, furtherUnary_eq_none
      (head?_sign_of_ne (by decide) (by decide) _) (head?_sign_of_ne (by decide) (by decide) _)⟩
  | multiply => cases h
  | divide => cases h

/-- A sum stops a product, and is read by the next step of an expression. -/
theorem sign_cases (op : ArithmeticOp) (hs : Stops Text.isBlank s) :
    (operator ('*', .multiply) ('/', .divide) (' ' :: (op.sign.toList ++ ' ' :: s)) = some (op, s) ∧
      furtherSummand (' ' :: (op.sign.toList ++ ' ' :: s)) = none) ∨
    operator ('+', .plus) ('-', .minus) (' ' :: (op.sign.toList ++ ' ' :: s)) = some (op, s) ∧
      furtherUnary (' ' :: (op.sign.toList ++ ' ' :: s)) = none := by
  cases hop : op.isProduct with
  | true => exact .inl (sign_of_isProduct hop hs)
  | false => exact .inr (sign_of_not_isProduct hop hs)

theorem head?_sign_ne (op : ArithmeticOp) :
    (Text.trimStart (' ' :: (op.sign.toList ++ ' ' :: s))).head? ≠ some ')' := by
  rw [trimStart_space]
  cases op <;> exact head?_trimStart_ne (by decide) (by decide) _

variable {t : List Char} {op : ArithmeticOp} {u v : Unary}

/-- **Two coefficients with a sign between them are read as an operation.** -/
theorem expression_operation (hu : unary expression s = some (u, ' ' :: (op.sign.toList ++ ' ' :: t)))
    (ht : Stops Text.isBlank t) (hv : unary expression t = some (v, r)) (hr : Closes r) :
    ∃ e, expression s = some (e, r) ∧ e.reduce = (do
      let a ← u.reduce
      let b ← v.reduce
      pure (.formula (.arithmetic op a b))) := by
  have hend : ∀ {c : Char}, c ≠ ',' → c ≠ ')' → (Text.trimStart r).head? ≠ some c :=
    head?_trimStart_end (.inr hr)
  have hunary : furtherUnary r = none :=
    furtherUnary_eq_none (hend (by decide) (by decide)) (hend (by decide) (by decide))
  have hsummand : furtherSummand r = none :=
    furtherSummand_eq_none (hend (by decide) (by decide)) (hend (by decide) (by decide))
  have hshrink : r.length < (' ' :: (op.sign.toList ++ ' ' :: t)).length := by
    have := Shrinks.length_le hv
    simp only [List.length_cons, List.length_append]
    omega
  rcases sign_cases op ht with ⟨hsign, hnone⟩ | ⟨hsign, hnone⟩
  · -- a product is one term
    have hstep : furtherUnary (' ' :: (op.sign.toList ++ ' ' :: t)) = some ((op, v), r) := by
      unfold furtherUnary
      rw [bind_of_some _ hsign, bind_of_some _ hv, pure_apply]
    have hterm : term expression s = some (.binary (.unary u) op v, r) := by
      rw [term_eq, bind_of_some _ hu,
        bind_of_some _ (many_cons hstep hshrink (many_nil hunary)), pure_apply]
      rfl
    refine ⟨_, expression_of_term hterm hsummand, ?_⟩
    rw [Expression.reduce, Term.reduce, Term.reduce]
  · -- a sum is two
    have hstep : furtherSummand (' ' :: (op.sign.toList ++ ' ' :: t)) =
        some ((op, .unary v), r) := by
      unfold furtherSummand
      rw [bind_of_some _ hsign, bind_of_some _ (term_of_unary hv hunary), pure_apply]
    have hread : expression s = some (.binary (.term (.unary u)) op (.unary v), r) := by
      rw [expression_eq_steps, bind_of_some _ (term_of_unary hu hnone),
        bind_of_some _ (many_cons hstep hshrink (many_nil hsummand)), pure_apply]
      rfl
    refine ⟨_, hread, ?_⟩
    rw [Expression.reduce, reduce_unary, Term.reduce]

/-- **The marks behind a sign are those of the coefficient that is read there**, if the expression
is closed at all. -/
theorem operation_starts (hu : unary expression s = some (u, ' ' :: (op.sign.toList ++ ' ' :: t)))
    (ht : Stops Text.isBlank t) {e : Expression} (he : expression s = some (e, r))
    (hclose : (Text.trimStart r).head? = some ')') {o : Operand} (ho : e.reduce = .ok o) :
    ∃ v t' x y more, unary expression t = some (v, t') ∧ u.reduce = .ok x ∧ v.reduce = .ok y ∧
      o.marks = x.marks ++ (y.marks ++ more) := by
  obtain ⟨a, steps, s1, ha, hsteps, rfl⟩ := expression_eq_some he
  obtain ⟨u', us, s2, hu', hus, rfl⟩ := term_eq_some ha
  rw [hu] at hu'
  cases hu'
  obtain ⟨y, ys, hy, hys, hmarks⟩ := Expression.marks_ofList ho
  obtain ⟨x, zs, hx, hzs, hmarks'⟩ := Term.marks_ofList hy
  rcases sign_cases op ht with ⟨hsign, hnone⟩ | ⟨hsign, hnone⟩
  · rcases many_eq_some hus with ⟨rfl, rfl⟩ | ⟨step, t1, us', hstep, rfl⟩
    · -- the sign is left over
      rw [many_nil hnone] at hsteps
      cases hsteps
      exact absurd hclose (head?_sign_ne op)
    · unfold furtherUnary at hstep
      rw [bind_of_some _ hsign] at hstep
      obtain ⟨v, t2, hv, hstep⟩ := bind_eq_some_iff.1 hstep
      cases hstep
      cases hzs with
      | @cons _ z _ zs hz hzs =>
        refine ⟨v, _, x, z, zs.flatMap Operand.marks ++ ys.flatMap Operand.marks, hv, hx, hz, ?_⟩
        rw [hmarks, hmarks', List.flatMap_cons]
        simp only [List.append_assoc]
  · rw [many_nil hnone] at hus
    cases hus
    cases hzs
    rcases many_eq_some hsteps with ⟨rfl, rfl⟩ | ⟨step, t1, steps', hstep, rfl⟩
    · exact absurd hclose (head?_sign_ne op)
    · unfold furtherSummand at hstep
      rw [bind_of_some _ hsign] at hstep
      obtain ⟨b, t2, hb, hstep⟩ := bind_eq_some_iff.1 hstep
      cases hstep
      cases hys with
      | @cons _ z _ ys hz hys =>
        obtain ⟨v, t3, w, more, hv, hw, hmarks''⟩ := term_starts hb hz
        refine ⟨v, t3, x, w, more ++ ys.flatMap Operand.marks, hv, hx, hw, ?_⟩
        rw [hmarks, hmarks', List.flatMap_cons, hmarks'']
        simp only [List.append_assoc, List.flatMap_nil, List.append_nil]

end

end Grammar

end MetricQuery
