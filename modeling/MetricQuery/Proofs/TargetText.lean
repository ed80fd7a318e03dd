import MetricQuery.Proofs.CallText
import MetricQuery.Proofs.Marks
import MetricQuery.Proofs.SuffixText

/-!
# Targets in a text

Where a call or an expression in parentheses starts, the grammar finds that target, with its filter
and its grouping, or it finds something whose marks depart.

* `unary_call`, `astray_call`     : a call;
* `unary_nested`, `astray_nested` : an expression in parentheses;
* `unary_minus`, `astray_minus`   : an expression in parentheses behind a minus;
* `unary_int`, `unary_float`, `unary_string` : literals.
-/

set_option autoImplicit false

namespace MetricQuery

namespace Grammar

open Scanner Surface Outcome

/-! ## Coefficients -/

/-- A target with its filter and its grouping. -/
def filteredTarget : Scanner Coefficient := do
  let t ← target expression
  let filters ← optionalBraces
  let grouping ← attempt groupBy
  pure (.filtered t filters grouping)

/-- What starts with no number and no quote is a target. -/
theorem coefficient_target {s : List Char} (hfloat : floatNumeral s = none)
    (hint : intNumeral s = none) (hquote : s.head? ≠ some '"') :
    coefficient expression s = filteredTarget s := by
  unfold coefficient
  rw [firstOf_of_none _ (bind_of_none _ hfloat), firstOf_of_none _ (bind_of_none _ hint),
    firstOf_of_none _ (bind_of_none _ (quoted_eq_none hquote))]
  exact firstOf_singleton filteredTarget s

theorem unary_of_coefficient {s t : List Char} {c : Coefficient} (hminus : s.head? ≠ some '-')
    (h : coefficient expression s = some (c, t)) :
    unary expression s = some (.mk false c, t) := by
  unfold unary
  rw [bind_of_some _ (flag_of_ne hminus), bind_of_some _ h, pure_apply]

theorem unary_negative {s t : List Char} {c : Coefficient}
    (h : coefficient expression s = some (c, t)) :
    unary expression ('-' :: s) = some (.mk true c, t) := by
  unfold unary
  rw [bind_of_some _ (flag_cons_self _ _), bind_of_some _ h, pure_apply]

theorem unary_eq_some {s t : List Char} {u : Unary} (hminus : s.head? ≠ some '-')
    (h : unary expression s = some (u, t)) :
    ∃ c, u = .mk false c ∧ coefficient expression s = some (c, t) := by
  unfold unary at h
  rw [bind_of_some _ (flag_of_ne hminus)] at h
  obtain ⟨c, t', hc, h⟩ := bind_eq_some_iff.1 h
  cases h
  exact ⟨c, rfl, hc⟩

theorem unary_minus_eq_some {s t : List Char} {u : Unary}
    (h : unary expression ('-' :: s) = some (u, t)) :
    ∃ c, u = .mk true c ∧ coefficient expression s = some (c, t) := by
  unfold unary at h
  rw [bind_of_some _ (flag_cons_self _ _)] at h
  obtain ⟨c, t', hc, h⟩ := bind_eq_some_iff.1 h
  cases h
  exact ⟨c, rfl, hc⟩

theorem filteredTarget_eq_some {s t : List Char} {c : Coefficient}
    (h : filteredTarget s = some (c, t)) :
    ∃ x filters names u, target expression s = some (x, u) ∧ c = .filtered x filters names := by
  obtain ⟨x, u, hx, h⟩ := bind_eq_some_iff.1 h
  obtain ⟨filters, v, -, h⟩ := bind_eq_some_iff.1 h
  obtain ⟨names, w, -, h⟩ := bind_eq_some_iff.1 h
  cases h
  exact ⟨x, filters, names, u, hx, rfl⟩

theorem filteredTarget_of_some {s t t' r : List Char} {x : Target} {filters : Option TagFilter}
    {names : Option (List String)} (hx : target expression s = some (x, t))
    (hbraces : optionalBraces t = some (filters, t'))
    (hnames : attempt groupBy t' = some (names, r)) :
    filteredTarget s = some (.filtered x filters names, r) := by
  unfold filteredTarget
  rw [bind_of_some _ hx, bind_of_some _ hbraces, bind_of_some _ hnames, pure_apply]

theorem reduce_positive (c : Coefficient) : (Unary.mk false c).reduce = c.reduce :=
  bind_pure c.reduce

/-- What is read where a target stands has the marks of the target. -/
theorem exists_target {s t : List Char} {u : Unary} {o : Operand} (hminus : s.head? ≠ some '-')
    (hfloat : floatNumeral s = none) (hint : intNumeral s = none) (hquote : s.head? ≠ some '"')
    (hu : unary expression s = some (u, t)) (ho : u.reduce = .ok o) :
    ∃ x v q, target expression s = some (x, v) ∧ x.reduce = .ok q ∧
      o.marks = q.toOperand.marks := by
  obtain ⟨c, rfl, hc⟩ := unary_eq_some hminus hu
  rw [coefficient_target hfloat hint hquote] at hc
  obtain ⟨x, filters, names, v, hx, rfl⟩ := filteredTarget_eq_some hc
  rw [reduce_positive] at ho
  obtain ⟨q, q', hq, rfl, hmarks⟩ := Coefficient.marks_filtered ho
  exact ⟨x, v, q, hx, hq, hmarks⟩

/-! ## Calls -/

section

variable {n : String} {s t r : List Char}

theorem variableName_eq_none (h : s.head? ≠ some '$') : variableName s = none :=
  bind_of_none _ (char_eq_none h)

/-- A call is a name and a parenthesis right behind it. -/
theorem call_eq_none (h : ∀ m t, functionName s = some (m, t) → t.head? ≠ some '(') :
    call expression s = none := by
  have hparens : ∀ {α β : Type} (p : Scanner α) (f : String → α → Scanner β),
      (do
        let m ← functionName
        let a ← parens p
        f m a) s = none := by
    intro α β p f
    cases hname : functionName s with
    | none => exact bind_of_none _ hname
    | some found =>
      obtain ⟨m, t⟩ := found
      rw [bind_of_some _ hname]
      exact bind_of_none _ (parens_eq_none (h m t hname))
  have hhead : curriedHead s = none := hparens _ _
  unfold call
  rw [firstOf_of_none _ (bind_of_none _ hhead), firstOf_of_none _ (bind_of_none _ hhead),
    firstOf_of_none _ (hparens selection _)]
  exact (firstOf_singleton _ s).trans (hparens (sepBy expression comma) _)

theorem call_eq_none_of_stops (h : Stops isFunctionChar s) : call expression s = none := by
  have hname : functionName s = none := bind_of_none _ (takeSome_eq_none h)
  refine call_eq_none fun m t hread => ?_
  rw [hname] at hread
  cases hread

/-- In front of neither a variable nor a parenthesis a target is a call, or else a metric. -/
theorem target_letter (hvariable : s.head? ≠ some '$') (hparen : s.head? ≠ some '(') :
    target expression s = firstOf
      [do
        let c ← call expression
        let grouping ← attempt groupBy
        pure (.call c grouping),
       do let m ← metric; pure (.metric m)] s := by
  unfold target
  rw [firstOf_of_none _ (bind_of_none _ (variableName_eq_none hvariable)),
    firstOf_of_none _ (bind_of_none _ (parens_eq_none hparen))]

theorem target_call (hn : IsCallName n.toList) {c : Call} {names : Option (List String)}
    (hc : call expression (n.toList ++ '(' :: s) = some (c, t))
    (hnames : attempt groupBy t = some (names, r)) :
    target expression (n.toList ++ '(' :: s) = some (.call c names, r) := by
  rw [target_letter (head?_call_ne hn (by decide) _) (head?_call_ne hn (by decide) _)]
  refine firstOf_of_some _ ?_
  rw [bind_of_some _ hc, bind_of_some _ hnames, pure_apply]

/-- Where the name of a call starts a coefficient is a target. -/
theorem coefficient_call (hn : IsCallName n.toList) :
    coefficient expression (n.toList ++ '(' :: s) = filteredTarget (n.toList ++ '(' :: s) :=
  coefficient_target (floatNumeral_call hn s) (intNumeral_call hn s)
    (head?_call_ne hn (by decide) _)

/-- Where the name of a call starts there is a call, or else a metric. -/
theorem target_call_eq_some (hn : IsCallName n.toList) {x : Target} {t : List Char}
    (h : target expression (n.toList ++ '(' :: s) = some (x, t)) :
    (∃ c names u, call expression (n.toList ++ '(' :: s) = some (c, u) ∧ x = .call c names) ∨
      call expression (n.toList ++ '(' :: s) = none ∧ ∃ m, x = .metric m := by
  rw [target_letter (head?_call_ne hn (by decide) _) (head?_call_ne hn (by decide) _)] at h
  rcases firstOf_cons_eq_some_iff.1 h with h | ⟨hnone, h⟩
  · obtain ⟨c, u, hc, h⟩ := bind_eq_some_iff.1 h
    obtain ⟨names, v, -, h⟩ := bind_eq_some_iff.1 h
    cases h
    exact .inl ⟨c, names, u, hc, rfl⟩
  · have hcall : call expression (n.toList ++ '(' :: s) = none := by
      cases hc : call expression (n.toList ++ '(' :: s) with
      | none => rfl
      | some found =>
        obtain ⟨c, u⟩ := found
        rw [bind_of_some _ hc] at hnone
        obtain ⟨names, v, hnames⟩ := attempt_isSome groupBy u
        rw [bind_of_some _ hnames] at hnone
        cases hnone
    rcases firstOf_cons_eq_some_iff.1 h with h | ⟨-, h⟩
    · obtain ⟨m, u, -, h⟩ := bind_eq_some_iff.1 h
      cases h
      exact .inr ⟨hcall, m, rfl⟩
    · cases h

/-- **A call that is found is read with what follows it.** -/
theorem unary_call {fs : Option (List Filter)} {gs : Option (List Column)} {suffix : String}
    {c : Call} {q : Query} (hn : IsCallName n.toList)
    (hc : call expression (n.toList ++ '(' :: s) = some (c, suffix.toList ++ r))
    (hsel : IsSelection fs gs) (ht : selectionText fs gs = .ok suffix) (hr : Follows r)
    (hq : c.reduce = .ok q) (hfilters : q.filters = none) (hgroupby : q.groupby = none) :
    ∃ u, unary expression (n.toList ++ '(' :: s) = some (u, r) ∧
      u.reduce = .ok ((q.withFilters (unite fs)).withGroupby gs).toOperand := by
  obtain ⟨inner, t, filters, t', names, hinner, hbraces, hnames, hadd⟩ := suffix_call hsel ht hr
  have hcoefficient : coefficient expression (n.toList ++ '(' :: s) =
      some (.filtered (.call c inner) filters names, r) :=
    (coefficient_call hn).trans
      (filteredTarget_of_some (target_call hn hc hinner) hbraces hnames)
  refine ⟨_, unary_of_coefficient (head?_call_ne hn (by decide) _) hcoefficient, ?_⟩
  obtain ⟨q1, hq1, hadd⟩ := bind_eq_ok.1 (hadd q hfilters hgroupby)
  obtain ⟨q2, hq2, hq3⟩ := bind_eq_ok.1 hadd
  have hreduce : (Target.call c inner).reduce = .ok q1 := by
    rw [Target.reduce, bind_of_ok _ hq]
    exact hq1
  rw [reduce_positive, Coefficient.reduce, bind_of_ok _ hreduce, bind_of_ok _ hq2,
    bind_of_ok _ hq3]
  rfl

/-- Where every call that may be found departs, so does what is read. -/
theorem astray_call {ms : List Mark} (hn : IsCallName n.toList)
    (hcall : ∀ c t q, call expression (n.toList ++ '(' :: s) = some (c, t) → c.reduce = .ok q →
      Departs ms q.toOperand.marks)
    (hmetric : Departs ms [.metric]) :
    Astray Unary.reduce ms (unary expression (n.toList ++ '(' :: s)) := by
  intro u t hu o ho
  obtain ⟨x, v, q, hx, hq, hmarks⟩ := exists_target (head?_call_ne hn (by decide) _)
    (floatNumeral_call hn s) (intNumeral_call hn s) (head?_call_ne hn (by decide) _) hu ho
  rw [hmarks]
  rcases target_call_eq_some hn hx with ⟨found, names', w, hfound, rfl⟩ | ⟨-, m, rfl⟩
  · obtain ⟨q', hq', hmarks'⟩ := Target.marks_call hq
    rw [hmarks']
    exact hcall found w q' hfound hq'
  · rw [Target.marks_metric hq]
    exact hmetric

/-! ## Expressions in parentheses -/

theorem floatNumeral_paren (s : List Char) : floatNumeral ('(' :: s) = none :=
  floatNumeral_eq_none (by simp)

theorem intNumeral_paren (s : List Char) : intNumeral ('(' :: s) = none :=
  intNumeral_eq_none (by simp)

/-- No metric starts with a parenthesis. -/
theorem metric_paren {c : Char} (hc : c = '(' ∨ c = ')') (s : List Char) :
    metric (c :: s) = none := by
  rcases hc with rfl | rfl <;>
  exact metric_eq_none (by simp [backQuote])
    (bareMri_eq_none (w := []) (by simp) (by simp; decide) (by simp)) (by simp; decide)

theorem target_nested {e : Expression} (he : parens expression ('(' :: s) = some (e, r)) :
    target expression ('(' :: s) = some (.nested e, r) := by
  unfold target
  rw [firstOf_of_none _ (bind_of_none _ (variableName_eq_none (by simp)))]
  refine firstOf_of_some _ ?_
  rw [bind_of_some _ he, pure_apply]

/-- Only what stands in parentheses is a target that starts with one. -/
theorem target_paren_eq_some {x : Target} {t : List Char}
    (h : target expression ('(' :: s) = some (x, t)) :
    ∃ e, parens expression ('(' :: s) = some (e, t) ∧ x = .nested e := by
  have hcall : call expression ('(' :: s) = none := call_eq_none_of_stops (by simp; decide)
  unfold target at h
  rw [firstOf_of_none _ (bind_of_none _ (variableName_eq_none (by simp)))] at h
  rcases firstOf_cons_eq_some_iff.1 h with h | ⟨-, h⟩
  · obtain ⟨e, u, he, h⟩ := bind_eq_some_iff.1 h
    cases h
    exact ⟨e, he, rfl⟩
  · rw [firstOf_of_none _ (bind_of_none _ hcall),
      firstOf_of_none _ (bind_of_none _ (metric_paren (.inl rfl) s)), firstOf_nil] at h
    cases h

/-- In front of a parenthesis a coefficient is a target. -/
theorem coefficient_paren (s : List Char) :
    coefficient expression ('(' :: s) = filteredTarget ('(' :: s) :=
  coefficient_target (floatNumeral_paren s) (intNumeral_paren s) (by simp)

theorem reduce_nested {e : Expression} {q : Query} (h : e.reduce = .ok q.toOperand) :
    (Target.nested e).reduce = .ok q := by
  rw [Target.reduce, bind_of_ok _ h, parenthesized, Query.ofOperand_toOperand]

theorem coefficient_paren_eq_some {c : Coefficient} {t : List Char}
    (h : coefficient expression ('(' :: s) = some (c, t)) :
    ∃ e filters names u, parens expression ('(' :: s) = some (e, u) ∧
      c = .filtered (.nested e) filters names := by
  rw [coefficient_paren] at h
  obtain ⟨x, filters, names, u, hx, rfl⟩ := filteredTarget_eq_some h
  obtain ⟨e, he, rfl⟩ := target_paren_eq_some hx
  exact ⟨e, filters, names, u, he, rfl⟩

/-- An expression in parentheses that is a query is a coefficient with what follows it. -/
theorem coefficient_nested {fs : Option (List Filter)} {gs : Option (List Column)}
    {suffix : String} {e : Expression} {q : Query}
    (he : parens expression ('(' :: s) = some (e, suffix.toList ++ r))
    (hsel : IsSelection fs gs) (ht : selectionText fs gs = .ok suffix) (hr : Follows r)
    (hq : e.reduce = .ok q.toOperand) (hfilters : q.filters = none) (hgroupby : q.groupby = none) :
    ∃ c, coefficient expression ('(' :: s) = some (c, r) ∧
      c.reduce = .ok ((q.withFilters (unite fs)).withGroupby gs).toOperand := by
  obtain ⟨filters, t, names, hbraces, hnames, hadd⟩ := suffix_nested hsel ht hr
  refine ⟨_, (coefficient_paren s).trans
    (filteredTarget_of_some (target_nested he) hbraces hnames), ?_⟩
  obtain ⟨q1, hq1, hq2⟩ := bind_eq_ok.1 (hadd q hfilters hgroupby)
  rw [Coefficient.reduce, bind_of_ok _ (reduce_nested hq), bind_of_ok _ hq1, bind_of_ok _ hq2]
  rfl

/-- **An expression in parentheses that is a query is read with what follows it.** -/
theorem unary_nested {fs : Option (List Filter)} {gs : Option (List Column)} {suffix : String}
    {e : Expression} {q : Query}
    (he : parens expression ('(' :: s) = some (e, suffix.toList ++ r))
    (hsel : IsSelection fs gs) (ht : selectionText fs gs = .ok suffix) (hr : Follows r)
    (hq : e.reduce = .ok q.toOperand) (hfilters : q.filters = none) (hgroupby : q.groupby = none) :
    ∃ u, unary expression ('(' :: s) = some (u, r) ∧
      u.reduce = .ok ((q.withFilters (unite fs)).withGroupby gs).toOperand := by
  obtain ⟨c, hc, hreduce⟩ := coefficient_nested he hsel ht hr hq hfilters hgroupby
  exact ⟨_, unary_of_coefficient (by simp) hc, by rw [reduce_positive, hreduce]⟩

theorem astray_nested {ms : List Mark}
    (h : Astray Expression.reduce ms (parens expression ('(' :: s))) :
    Astray Unary.reduce ms (unary expression ('(' :: s)) := by
  intro u t hu o ho
  obtain ⟨c, rfl, hc⟩ := unary_eq_some (by simp) hu
  obtain ⟨e, filters, names, v, he, rfl⟩ := coefficient_paren_eq_some hc
  rw [reduce_positive] at ho
  obtain ⟨q, q', hq, rfl, hmarks⟩ := Coefficient.marks_filtered ho
  rw [hmarks]
  exact h e v he _ (Target.marks_nested hq)

/-! ## Minus -/

/-- **A query in parentheses behind a minus is negated.** -/
theorem unary_minus {e : Expression} {q : Query} (he : parens expression ('(' :: s) = some (e, r))
    (hr : Follows r) (hq : e.reduce = .ok q.toOperand) :
    ∃ u, unary expression ('-' :: '(' :: s) = some (u, r) ∧
      u.reduce = .ok (.formula (.new negation [q.toOperand])) := by
  have hbraces : optionalBraces r = some (none, r) :=
    optionalBraces_eq_none (hr.head?_ne (by decide) (by decide) (by decide))
  refine ⟨.mk true (.filtered (.nested e) none none), unary_negative ((coefficient_paren s).trans
    (filteredTarget_of_some (target_nested he) hbraces (attempt_of_none hr.groupBy_eq_none))), ?_⟩
  have hreduce : (Coefficient.filtered (.nested e) none none).reduce = .ok q.toOperand := by
    rw [Coefficient.reduce, bind_of_ok _ (reduce_nested hq)]
    rfl
  rw [Unary.reduce, bind_of_ok _ hreduce, if_pos rfl, negated_toOperand]

/-- Whatever a minus negates in parentheses is a query. -/
theorem unary_minus_marks {u : Unary} {t : List Char} {o : Operand}
    (hu : unary expression ('-' :: '(' :: s) = some (u, t)) (ho : u.reduce = .ok o) :
    ∃ e v q, parens expression ('(' :: s) = some (e, v) ∧ e.reduce = .ok (Query.toOperand q) ∧
      o.marks = .call none :: q.toOperand.marks := by
  obtain ⟨c, rfl, hc⟩ := unary_minus_eq_some hu
  obtain ⟨e, filters, names, v, he, rfl⟩ := coefficient_paren_eq_some hc
  rw [Unary.reduce] at ho
  obtain ⟨o', ho', ho⟩ := bind_eq_ok.1 ho
  rw [if_pos rfl] at ho
  obtain ⟨q, q', hq, rfl, hmarks⟩ := Coefficient.marks_filtered ho'
  rw [negated_toOperand] at ho
  cases ho
  exact ⟨e, v, q, he, Target.marks_nested hq, by rw [Operand.marks_negation, hmarks]⟩

theorem astray_minus {ms : List Mark}
    (h : Astray Expression.reduce ms (parens expression ('(' :: s))) :
    Astray Unary.reduce (.call none :: ms) (unary expression ('-' :: '(' :: s)) := by
  intro u t hu o ho
  obtain ⟨e, v, q, he, hq, hmarks⟩ := unary_minus_marks hu ho
  rw [hmarks]
  exact (h e v he _ hq).prepend [.call none]

/-- No minus leaves the mark of a call with parameters. -/
theorem astray_minus_curried (parameters : List Literal) (ms : List Mark) (s : List Char) :
    Astray Unary.reduce (.call (some parameters) :: ms) (unary expression ('-' :: s)) := by
  intro u t hu o ho
  obtain ⟨c, rfl, -⟩ := unary_minus_eq_some hu
  rw [Unary.reduce] at ho
  obtain ⟨o', -, ho⟩ := bind_eq_ok.1 ho
  rcases negated_marks ho with h | h
  · rw [h]
    exact Departs.head (by simp) _ _
  · rw [h]
    exact Departs.head (by simp) _ _

/-! ## Literals -/

theorem coefficient_int {m : Nat} (hm : m < integerBound) (hr : Stops Char.isDigit r)
    (hpoint : r.head? ≠ some '.') :
    coefficient expression (Nat.toDigits 10 m ++ r) = some (.int (Int64.ofNat m), r) := by
  have hfloat := floatNumeral_digits (isNumeral_toDigits m) hr hpoint
  unfold coefficient
  rw [firstOf_of_none _ (bind_of_none _ hfloat)]
  refine firstOf_of_some _ ?_
  rw [bind_of_some _ (intNumeral_toDigits hm hr), pure_apply]

theorem coefficient_float {whole fraction : List Char} (hwhole : IsNumeral whole)
    (hfraction : IsNumeral fraction) (hr : Stops Char.isDigit r) :
    coefficient expression (whole ++ '.' :: (fraction ++ r)) =
      some (.float (Double.ofDigits whole fraction), r) := by
  refine firstOf_of_some _ ?_
  rw [bind_of_some _ (floatNumeral_fraction hwhole hfraction hr), pure_apply]

theorem coefficient_quote (s : String) (r : List Char) :
    coefficient expression ((Text.quote s).toList ++ r) = some (.string s, r) := by
  have hdigit : Stops Char.isDigit ((Text.quote s).toList ++ r) := by
    rw [Text.toList_quote]
    simp
  unfold coefficient
  rw [firstOf_of_none _ (bind_of_none _ (floatNumeral_eq_none hdigit)),
    firstOf_of_none _ (bind_of_none _ (intNumeral_eq_none hdigit))]
  refine firstOf_of_some _ ?_
  rw [bind_of_some _ (quoted_quote s r), pure_apply]

theorem head?_numeral_ne {ds : List Char} (h : IsNumeral ds) (s : List Char) :
    (ds ++ s).head? ≠ some '-' :=
  head?_append_ne h.1 h.2 (by decide) s

theorem unary_int {n : Int64} (h : Int64.minValue < n) (hr : Follows r) :
    ∃ u, unary expression ((integerText n.toInt).toList ++ r) = some (u, r) ∧
      u.reduce = .ok (.int n) := by
  have hdigit : Stops Char.isDigit r := hr.stops (by decide) (by decide) (by decide)
  have hpoint : r.head? ≠ some '.' := hr.head?_ne (by decide) (by decide) (by decide)
  by_cases hn : 0 ≤ n
  · obtain ⟨m, hm, rfl, htext⟩ := exists_digits_of_nonneg hn
    rw [htext]
    exact ⟨_, unary_of_coefficient (head?_numeral_ne (isNumeral_toDigits m) r)
      (coefficient_int hm hdigit hpoint), rfl⟩
  · obtain ⟨m, hm, rfl, htext⟩ := exists_digits_of_neg h hn
    rw [htext]
    exact ⟨_, unary_negative (coefficient_int hm hdigit hpoint), rfl⟩

theorem unary_float {x : Double} (hx : x.isFinite = true) (hr : Follows r) :
    ∃ u, unary expression (x.literal.toList ++ r) = some (u, r) ∧ u.reduce = .ok (.float x) := by
  have hdigit : Stops Char.isDigit r := hr.stops (by decide) (by decide) (by decide)
  cases x with
  | nan => cases hx
  | infinite negative => cases hx
  | finite negative m =>
    obtain ⟨whole, fraction, htext, hwhole, hfraction, hsame⟩ := Double.exists_literal negative m
    have hread := coefficient_float hwhole hfraction hdigit
    rw [hsame] at hread
    cases negative with
    | false =>
      rw [htext]
      refine ⟨.mk false (.float (.finite false m)), ?_, rfl⟩
      have hplus : (Double.signText false).toList ++ (whole ++ '.' :: fraction) ++ r =
          whole ++ '.' :: (fraction ++ r) := by
        simp [Double.signText]
      rw [hplus]
      exact unary_of_coefficient (head?_numeral_ne hwhole _) hread
    | true =>
      rw [htext]
      refine ⟨.mk true (.float (.finite false m)), ?_, rfl⟩
      have hminus : (Double.signText true).toList ++ (whole ++ '.' :: fraction) ++ r =
          '-' :: (whole ++ '.' :: (fraction ++ r)) := by
        simp [Double.signText]
      rw [hminus]
      exact unary_negative hread

theorem unary_string (s : String) (r : List Char) :
    ∃ u, unary expression ((Text.quote s).toList ++ r) = some (u, r) ∧
      u.reduce = .ok (.string s) := by
  refine ⟨_, unary_of_coefficient ?_ (coefficient_quote s r), rfl⟩
  rw [Text.toList_quote]
  simp

end

end Grammar

end MetricQuery
