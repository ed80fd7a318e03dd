import MetricQuery.Proofs.SeriesText

/-!
# Formulas in a text

The text of a formula has one of three shapes: operands with a sign between them, a minus, or a call
of operands.  In the first two of them the formula is read back here, or what is read departs from it.

* `Operand.returns_sign`, `Operand.strays_sign`   : two operands with a sign between them;
* `Operand.returns_minus`, `Operand.strays_minus` : a minus.
-/

set_option autoImplicit false

namespace MetricQuery

open Grammar Scanner Surface Outcome

/-! ## Shapes -/

namespace Formula

variable {f : Formula}

/-- The text of the operands of a call. -/
def argumentsText (f : Formula) : List Char :=
  (Text.join ", " (f.operands.map Operand.text)).toList

theorem function_ne_negation {op : ArithmeticOp} (h : f.sign? = some op) :
    f.function ≠ negation := by
  intro e
  unfold sign? operator? at h
  rw [e, ofName?_negation] at h
  split at h <;> cases h

theorem sign?_eq_some {op : ArithmeticOp} (h : f.sign? = some op) :
    f.parameters = none ∧ f.function = op.name := by
  unfold sign? operator? at h
  split at h
  · rename_i hnone
    exact ⟨hnone, (ArithmeticOp.name_of_ofName? h).symm⟩
  · cases h

theorem text_sign (h : (Operand.formula f).IsWritable) {op : ArithmeticOp} (hop : f.sign? = some op)
    {a b : Operand} (hos : f.operands = [a, b]) (r : List Char) :
    (Operand.formula f).text.toList ++ r =
      '(' :: (a.text.toList ++ ' ' :: (op.sign.toList ++ ' ' ::
        (b.text.toList ++ ')' :: (f.suffix.toList ++ r)))) := by
  rw [Operand.text_formula h, opening, separator, closing, hop, hos]
  simp [function_ne_negation hop, Text.join]

theorem text_function (h : (Operand.formula f).IsWritable) (hop : f.sign? = none)
    (hneg : f.function ≠ negation) (r : List Char) :
    (Operand.formula f).text.toList ++ r =
      f.function.toList ++ (f.curry.toList ++ '(' ::
        (f.argumentsText ++ ')' :: (f.suffix.toList ++ r))) := by
  rw [Operand.text_formula h, opening, separator, closing, hop]
  simp [hneg, argumentsText]

theorem sign?_negation (hneg : f.function = negation) : f.sign? = none := by
  unfold sign? operator?
  rw [hneg, ofName?_negation]
  split <;> rfl

theorem text_minus (h : (Operand.formula f).IsWritable) (hneg : f.function = negation)
    (hsuffix : f.suffix = "") (r : List Char) :
    (Operand.formula f).text.toList ++ r =
      '-' :: (f.curry.toList ++ '(' :: (f.argumentsText ++ ')' :: r)) := by
  rw [Operand.text_formula h, opening, separator, closing, sign?_negation hneg]
  simp [hneg, hsuffix, argumentsText]

theorem text_minus_nested (h : (Operand.formula f).IsWritable) (hneg : f.function = negation)
    (hsuffix : f.suffix ≠ "") (r : List Char) :
    (Operand.formula f).text.toList ++ r =
      '(' :: '-' :: (f.curry.toList ++ '(' ::
        (f.argumentsText ++ ')' :: ')' :: (f.suffix.toList ++ r))) := by
  rw [Operand.text_formula h, opening, separator, closing, sign?_negation hneg]
  simp [hneg, hsuffix, argumentsText]

/-- Nothing is written behind a formula only where nothing follows it. -/
theorem eq_none_of_suffix (h : f.IsShaped) (hsuffix : f.suffix = "") :
    f.filters = none ∧ f.groupby = none := by
  have ht := h.suffix_eq
  rw [hsuffix] at ht
  obtain ⟨braces, hbraces, ht⟩ := bind_eq_ok.1 ht
  obtain ⟨grouping, hgrouping, ht⟩ := bind_eq_ok.1 ht
  have happ : braces ++ grouping = "" := pure_eq_ok.1 ht
  have hempty : braces.toList = [] ∧ grouping.toList = [] := by
    have := congrArg String.toList happ
    simpa using this
  constructor
  · obtain ⟨filters, -, -, hcases⟩ :=
      braces_suffix h.selection.filters_ne h.selection.filters_normal hbraces
    rcases hcases with ⟨-, -, hnone⟩ | hhead
    · exact hnone
    · rw [hempty.1] at hhead
      cases hhead
  · cases hg : f.groupby with
    | none => rfl
    | some gs =>
      rw [hg, Option.getD_some] at hgrouping
      unfold groupByText at hgrouping
      split at hgrouping
      · exact absurd hg h.selection.groupby_ne
      · obtain ⟨names, -, hgrouping⟩ := bind_eq_ok.1 hgrouping
        cases pure_eq_ok.1 hgrouping
        simp at hempty

/-- The formula that is read, with what follows it. -/
theorem reread_eq (f : Formula) :
    (((Query.formula ⟨f.function, rereadParameters f.parameters, f.operands.map Operand.reread, none,
      none⟩).withFilters (unite f.filters)).withGroupby f.groupby).toOperand =
      (Operand.formula f).reread := by
  obtain ⟨function, parameters, operands, filters, groupby⟩ := f
  rw [Operand.reread, reread, Operand.rereadAll_eq]
  rfl

end Formula

/-! ## Signs -/

namespace Formula

variable {f : Formula} {op : ArithmeticOp} {a b : Operand}

/-- What follows the first of two operands with a sign between them. -/
def signRest (f : Formula) (op : ArithmeticOp) (b : Operand) (r : List Char) : List Char :=
  ' ' :: (op.sign.toList ++ ' ' :: (b.text.toList ++ ')' :: (f.suffix.toList ++ r)))

theorem follows_signRest (r : List Char) : Follows (f.signRest op b r) := .inr (.inr ⟨op, _, rfl⟩)

/-- A formula with a sign rereads where both operands do. -/
theorem rereads_sign {asked : Operand → Prop} (hop : f.sign? = some op) (hab : f.operands = [a, b])
    (r : List Char) :
    (Operand.formula f).RereadsWith asked r ↔
      asked (.formula f) ∧ a.RereadsWith asked (f.signRest op b r) ∧
        b.RereadsWith asked (')' :: (f.suffix.toList ++ r)) := by
  have hclosing : f.closing.toList ++ r = ')' :: (f.suffix.toList ++ r) := by
    rw [closing]
    simp [function_ne_negation hop]
  rw [Operand.rereads_formula, hclosing, separator, hop, hab]
  simp [Operand.RereadAll, joinedTail, signRest]

theorem marks_sign (hop : f.sign? = some op) (hab : f.operands = [a, b]) :
    (Operand.formula f).marks = a.marks ++ b.marks := by
  rw [Operand.marks_formula, headMarks, hop, hab]
  simp

end Formula

namespace Operand

variable {f : Formula} {op : ArithmeticOp}

/-- **Two operands with a sign between them are read back.** -/
theorem returns_sign (h : (Operand.formula f).IsWritable) (hop : f.sign? = some op)
    (ih : ∀ o ∈ f.operands, o.Returns) : (Operand.formula f).Returns := by
  obtain ⟨hf, hlen, hos⟩ := isWritable_formula.1 h
  obtain ⟨a, b, hab⟩ : ∃ a b, f.operands = [a, b] :=
    List.length_eq_two.1 (hlen (by rw [hop]; rfl))
  obtain ⟨hparameters, hname⟩ := Formula.sign?_eq_some hop
  intro r hr hclear
  obtain ⟨-, ha, hb⟩ := (Formula.rereads_sign hop hab r).1 hclear
  obtain ⟨u, hu, hureduce⟩ := ih a (by simp [hab]) _ (Formula.follows_signRest r) ha
  obtain ⟨v, hv, hvreduce⟩ := ih b (by simp [hab]) _ (.inr (.inl (.inr rfl))) hb
  have hablank := (hos a (by simp [hab])).isOperandText.stops_isBlank (f.signRest op b r)
  have hbblank := (hos b (by simp [hab])).isOperandText.stops_isBlank
    (')' :: (f.suffix.toList ++ r))
  obtain ⟨e, he, hreduce⟩ := expression_operation hu hbblank hv (.inr rfl)
  have hq : e.reduce = .ok (Query.formula ⟨f.function, rereadParameters f.parameters,
      f.operands.map reread, none, none⟩).toOperand := by
    rw [hreduce, bind_of_ok _ hureduce, bind_of_ok _ hvreduce, hab, hname, hparameters]
    rfl
  have hread := unary_nested (parens_of_some hablank he) hf.selection hf.suffix_eq hr hq rfl rfl
  rw [Formula.reread_eq] at hread
  rw [ReadsAs, Formula.text_sign h hop hab]
  exact hread

/-- What is read departs from two operands with a sign between them where one of them is mistaken. -/
theorem strays_sign (h : (Operand.formula f).IsWritable) (hop : f.sign? = some op)
    (ih : ∀ o ∈ f.operands, o.ReadsBack) : (Operand.formula f).Strays := by
  obtain ⟨hf, hlen, hos⟩ := isWritable_formula.1 h
  obtain ⟨a, b, hab⟩ : ∃ a b, f.operands = [a, b] :=
    List.length_eq_two.1 (hlen (by rw [hop]; rfl))
  have hregular : (Operand.formula f).IsRegular :=
    ⟨by simp [AreFinite, (Formula.sign?_eq_some hop).1],
      fun e => absurd e (Formula.function_ne_negation hop)⟩
  have ha := ih a (by simp [hab])
  have hb := ih b (by simp [hab])
  have hablank := (hos a (by simp [hab])).isOperandText.stops_isBlank
  have hbblank := (hos b (by simp [hab])).isOperandText.stops_isBlank
  intro r hr hnot
  rw [rereads_iff, Formula.rereads_sign hop hab] at hnot
  rw [Formula.marks_sign hop hab, Formula.text_sign h hop hab]
  refine astray_nested (astray_parens (hablank _) fun e t he hclose o ho => ?_)
  by_cases haread : a.Rereads (f.signRest op b r)
  · -- the second operand is mistaken
    have hbread : ¬ b.Rereads (')' :: (f.suffix.toList ++ r)) :=
      fun hbread => hnot ⟨hregular, haread, hbread⟩
    obtain ⟨u, hu, hureduce⟩ := ha.same _ (Formula.follows_signRest r) haread
    obtain ⟨v, t', x, y, more, hv, hx, hy, ho⟩ := operation_starts hu (hbblank _) he hclose ho
    rw [hureduce] at hx
    cases hx
    rw [ho, marks_united]
    have hdeparts := (hb.strays _ (.inr (.inl (.inr rfl))) hbread v t' hv y hy).append [] more
    rw [List.append_nil] at hdeparts
    exact hdeparts.prepend _
  · exact astray_expression (ha.strays _ (Formula.follows_signRest r) haread) b.marks e t he o ho

end Operand

/-! ## Minus -/

/-- Only a query is joined to a query. -/
theorem Operand.exists_query_of_united {o : Operand} {q : Query} (h : o.united = q.toOperand) :
    ∃ q' : Query, o = q'.toOperand := by
  cases o with
  | formula f => exact ⟨.formula f, rfl⟩
  | timeseries t => exact ⟨.timeseries t, rfl⟩
  | int n => cases q <;> cases h
  | float x => cases q <;> cases h
  | string s => cases q <;> cases h

/-- What is behind a minus and a parenthesis departs, unless it is one query that rereads. -/
theorem astray_negation {o : Operand} {os : List Operand} {r : List Char} (hread : o.ReadsBack)
    (htext : IsOperandText o.text.toList)
    (h : ¬ (o.Rereads (argumentsTail os r) ∧ ∃ q : Query, o :: os = [q.toOperand])) :
    Astray Unary.reduce (.call none :: (o :: os).flatMap Operand.marks)
      (unary expression ('-' :: '(' :: (o.text.toList ++ argumentsTail os r))) := by
  have hblank := htext.stops_isBlank (argumentsTail os r)
  have hcloses := closes_argumentsTail os r
  by_cases ho : o.Rereads (argumentsTail os r)
  · -- a first operand that is read to its end is not closed, or is no query
    obtain ⟨u, hu, hreduce⟩ := hread.same _ (.inr (.inl hcloses)) ho
    intro v t hv y hy
    obtain ⟨e, w, q, he, hq, -⟩ := unary_minus_marks hv hy
    obtain ⟨s, t', hs, hbody, hclose⟩ := parens_eq_some he
    cases hs
    rw [trimStart_of_stops hblank, expression_of_unary hu (.inr hcloses)] at hbody
    cases hbody
    rw [hcloses.trimStart_eq] at hclose
    cases os with
    | nil =>
      rw [reduce_unary, hreduce] at hq
      obtain ⟨q', hq'⟩ := Operand.exists_query_of_united (Except.ok.inj hq)
      exact absurd ⟨ho, q', by rw [hq']⟩ h
    | cons o' os =>
      rw [argumentsTail_cons] at hclose
      simp at hclose
  · rw [List.flatMap_cons]
    exact astray_minus (astray_parens hblank fun e t he _ y hy =>
      astray_expression (hread.strays _ (.inr (.inl hcloses)) ho) (os.flatMap Operand.marks) e t he
        y hy)

namespace Formula

variable {f : Formula} {o : Operand} {os : List Operand} {r : List Char}

/-- What stands behind the operands of a formula that is a minus. -/
def minusRest (f : Formula) (r : List Char) : List Char :=
  if f.suffix = "" then r else ')' :: (f.suffix.toList ++ r)

theorem follows_minusRest (hr : Follows r) : Follows (f.minusRest r) := by
  unfold minusRest
  split
  · exact hr
  · exact .inr (.inl (.inr rfl))

theorem marks_negation_cons (hneg : f.function = negation) (hos : f.operands = o :: os) :
    (Operand.formula f).marks = .call f.parameters :: (o :: os).flatMap Operand.marks := by
  rw [Operand.marks_formula, headMarks, sign?_negation hneg, hos]
  rfl

/-- A formula that is a minus rereads where its head and its operands do. -/
theorem rereads_negation {asked : Operand → Prop} (hneg : f.function = negation)
    (hos : f.operands = o :: os) :
    (Operand.formula f).RereadsWith asked r ↔
      asked (.formula f) ∧ o.RereadsWith asked (argumentsTail os (f.minusRest r)) ∧
        Operand.RereadAll asked ", " os (')' :: f.minusRest r) := by
  have hclosing : f.closing.toList ++ r = ')' :: f.minusRest r := by
    unfold closing minusRest
    by_cases hsuffix : f.suffix = ""
    · simp [hsuffix]
    · simp [hneg, hsuffix]
  rw [Operand.rereads_formula, hclosing, separator, sign?_negation hneg, hos]
  rfl

/-- Of a formula that is a minus, nothing is mistaken if it has no parameters and its only operand is
a query of which nothing is. -/
theorem rereads_negation_of (hneg : f.function = negation) (hos : f.operands = o :: os)
    (hnone : f.parameters = none) (ho : o.Rereads (argumentsTail os (f.minusRest r)))
    (hq : ∃ q : Query, o :: os = [q.toOperand]) : (Operand.formula f).Rereads r := by
  obtain ⟨q, hq⟩ := hq
  refine (rereads_negation hneg hos).2 ⟨⟨by simp [AreFinite, hnone], fun _ => ?_⟩, ho, ?_⟩
  · exact ⟨hnone, q, by rw [hos, hq]⟩
  · rw [(List.cons.inj hq).2]
    trivial

/-- A minus and what is behind it are read back, where nothing but parentheses is put around them. -/
theorem unary_negation (h : (Operand.formula f).IsWritable) (hneg : f.function = negation)
    (ih : ∀ o ∈ f.operands, o.Returns) (hr : Follows r)
    (hclear : (Operand.formula f).RereadsWith Operand.IsLegible r) :
    f.parameters = none ∧ ∃ u, unary expression ('-' :: (f.curry.toList ++ '(' ::
      (f.argumentsText ++ ')' :: f.minusRest r))) = some (u, f.minusRest r) ∧
      u.reduce = .ok (.formula (.new negation (f.operands.map Operand.reread))) := by
  obtain ⟨-, -, hwritable⟩ := Operand.isWritable_formula.1 h
  obtain ⟨hnone, q, hq⟩ := (Operand.rereads_formula.1 hclear).1 hneg
  obtain ⟨-, ho, -⟩ := (rereads_negation hneg hq).1 hclear
  have hcloses := closes_argumentsTail [] (f.minusRest r)
  obtain ⟨e, he, hreduce⟩ :=
    (ih q.toOperand (by simp [hq]) _ (.inr (.inl hcloses)) ho).exists_expression (.inr hcloses)
  have hblank := (hwritable q.toOperand (by simp [hq])).isOperandText.stops_isBlank
    (argumentsTail [] (f.minusRest r))
  have hquery : e.reduce = .ok q.reread.toOperand := by rw [hreduce, Query.toOperand_reread]
  obtain ⟨v, hv, hvreduce⟩ :=
    unary_minus (parens_of_some hblank he) (follows_minusRest hr) hquery
  have hcurry : f.curry = "" := by
    rw [curry, hnone]
    rfl
  have harguments : f.argumentsText ++ ')' :: f.minusRest r =
      q.toOperand.text.toList ++ argumentsTail [] (f.minusRest r) := by
    rw [argumentsText, hq, join_operands]
  refine ⟨hnone, v, ?_, ?_⟩
  · rw [hcurry, harguments]
    exact hv
  · rw [hvreduce, hq, Query.toOperand_reread]
    rfl

/-- What is read departs from a minus and what is behind it, where something is mistaken. -/
theorem astray_negation_text (h : (Operand.formula f).IsWritable) (hneg : f.function = negation)
    (ih : ∀ o ∈ f.operands, o.ReadsBack) (hnot : ¬ (Operand.formula f).Rereads r) :
    Astray Unary.reduce (Operand.formula f).marks (unary expression ('-' :: (f.curry.toList ++
      '(' :: (f.argumentsText ++ ')' :: f.minusRest r)))) := by
  obtain ⟨hf, -, hwritable⟩ := Operand.isWritable_formula.1 h
  obtain ⟨o, os, hos⟩ := List.exists_cons_of_ne_nil hf.operands
  rw [marks_negation_cons hneg hos, argumentsText, hos, join_operands]
  cases hparameters : f.parameters with
  | some ps => exact astray_minus_curried ps _ _
  | none =>
    have hcurry : f.curry = "" := by
      rw [curry, hparameters]
      rfl
    rw [hcurry]
    refine astray_negation (ih o (by simp [hos])) (hwritable o (by simp [hos])).isOperandText ?_
    exact fun hrereads => hnot (rereads_negation_of hneg hos hparameters hrereads.1 hrereads.2)

end Formula

namespace Operand

variable {f : Formula}

/-- **A minus is read back.** -/
theorem returns_minus (h : (Operand.formula f).IsWritable) (hneg : f.function = negation)
    (ih : ∀ o ∈ f.operands, o.Returns) : (Operand.formula f).Returns := by
  obtain ⟨hf, -, -⟩ := isWritable_formula.1 h
  intro r hr hclear
  obtain ⟨hnone, u, hu, hreduce⟩ := Formula.unary_negation h hneg ih hr hclear
  have hreread : (((Query.formula (.new negation (f.operands.map reread))).withFilters
      (unite f.filters)).withGroupby f.groupby).toOperand = (Operand.formula f).reread := by
    rw [← Formula.reread_eq, hneg, hnone]
    rfl
  by_cases hsuffix : f.suffix = ""
  · -- nothing follows: the minus stands alone
    obtain ⟨hfilters, hgroupby⟩ := Formula.eq_none_of_suffix hf hsuffix
    have hrest : f.minusRest r = r := by rw [Formula.minusRest, if_pos hsuffix]
    rw [hrest] at hu
    rw [ReadsAs, Formula.text_minus h hneg hsuffix]
    refine ⟨u, hu, ?_⟩
    rw [hreduce, ← hreread, hfilters, hgroupby]
    rfl
  · -- the minus is in parentheses, and what follows is behind them
    have hrest : f.minusRest r = ')' :: (f.suffix.toList ++ r) := by
      rw [Formula.minusRest, if_neg hsuffix]
    rw [hrest] at hu
    have hblank : ∀ s, Stops Text.isBlank ('-' :: s) := fun s => stops_cons.2 (by decide)
    have hparens := parens_of_some (hblank _) (expression_of_unary hu (.inr (.inr rfl)))
    have hquery : (Expression.term (.unary u)).reduce =
        .ok (Query.formula (.new negation (f.operands.map reread))).toOperand := by
      rw [reduce_unary, hreduce]
      rfl
    have hread := unary_nested hparens hf.selection hf.suffix_eq hr hquery rfl rfl
    rw [hreread] at hread
    rw [ReadsAs, Formula.text_minus_nested h hneg hsuffix]
    exact hread

/-- What is read departs from a minus where something in its text is mistaken. -/
theorem strays_minus (h : (Operand.formula f).IsWritable) (hneg : f.function = negation)
    (ih : ∀ o ∈ f.operands, o.ReadsBack) : (Operand.formula f).Strays := by
  intro r hr hnot
  have hastray := Formula.astray_negation_text h hneg ih hnot
  by_cases hsuffix : f.suffix = ""
  · have hrest : f.minusRest r = r := by rw [Formula.minusRest, if_pos hsuffix]
    rw [hrest] at hastray
    rw [Formula.text_minus h hneg hsuffix]
    exact hastray
  · have hrest : f.minusRest r = ')' :: (f.suffix.toList ++ r) := by
      rw [Formula.minusRest, if_neg hsuffix]
    rw [hrest] at hastray
    rw [Formula.text_minus_nested h hneg hsuffix]
    refine astray_nested (astray_parens (stops_cons.2 (by decide)) fun e t he _ y hy => ?_)
    have hdeparts := astray_expression hastray [] e t he y hy
    rw [List.append_nil] at hdeparts
    exact hdeparts

end Operand

end MetricQuery
