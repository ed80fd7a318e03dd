import MetricQuery.Proofs.FormulaText

/-!
# Calls of operands in a text

A call of operands is read back when its operands are, with what its parameters are taken for.  Where
an operand is not, some other call may be found in its place, without parameters or with other ones;
a sign does not give it away if the call has the name of one, but then its first argument does.

* `astray_params`                : operands that are read in the place of parameters;
* `Operand.returns_function`     : a call of operands is read back;
* `Operand.strays_function`      : where it is not, what is read departs from it;
* `Operand.IsWritable.returns`   : every writable operand is read back;
* `Operand.IsWritable.readsBack` : a normal one as it was, or what is read departs from it.
-/

set_option autoImplicit false

namespace MetricQuery

open Grammar Scanner Surface Outcome

/-! ## Parameters in the place of operands -/

namespace Grammar

section

variable {r : List Char}

/-- No coefficient starts with a closing parenthesis. -/
theorem unary_closing (s : List Char) : unary expression (')' :: s) = none := by
  have hdigit : Stops Char.isDigit (')' :: s) := by simp
  have hcall : call expression (')' :: s) = none := call_eq_none_of_stops (by simp; decide)
  have htarget : target expression (')' :: s) = none := by
    rw [target_letter (by simp) (by simp), firstOf_of_none _ (bind_of_none _ hcall),
      firstOf_of_none _ (bind_of_none _ (metric_paren (.inr rfl) s)), firstOf_nil]
  have hcoefficient : coefficient expression (')' :: s) = none := by
    rw [coefficient_target (floatNumeral_eq_none hdigit) (intNumeral_eq_none hdigit) (by simp)]
    exact bind_of_none _ htarget
  unfold unary
  rw [bind_of_some _ (flag_of_ne (by simp)), bind_of_none _ hcoefficient]

/-- No call starts with a name that no parenthesis follows. -/
theorem call_name {w : List Char} (hne : w ≠ []) (hw : ∀ c ∈ w, isFunctionChar c = true)
    (hr : Closes r) : call expression (w ++ r) = none := by
  have hname : functionName (w ++ r) = some (String.ofList w, r) := by
    unfold functionName
    rw [bind_of_some _ (takeSome_of_stops hne hw (hr.stops (by decide) (by decide))), pure_apply]
  refine call_eq_none fun m t hread => ?_
  rw [hname] at hread
  cases hread
  exact hr.head?_ne (by decide) (by decide)

/-- A name that no parenthesis follows is at most a metric. -/
theorem marks_name {w : List Char} (hne : w ≠ []) (hw : ∀ c ∈ w, isPublicChar c = true)
    (hr : Closes r) {u : Unary} {t : List Char} (hu : unary expression (w ++ r) = some (u, t))
    {o : Operand} (ho : u.reduce = .ok o) : o.marks = [.metric] := by
  have hfunction : ∀ c ∈ w, isFunctionChar c = true :=
    fun c hc => isFunctionChar_of_isPublicChar (hw c hc)
  have hstart : ∀ {x : Char}, isFunctionChar x = false → (w ++ r).head? ≠ some x :=
    fun hx => head?_append_ne hne hfunction hx r
  have hdigit : Stops Char.isDigit (w ++ r) := by
    refine stops_append hne hw (fun c hc => ?_) r
    rw [← Bool.not_eq_true]
    intro hd
    rw [isPublicChar_of_isDigit hd] at hc
    cases hc
  obtain ⟨x, v, q, hx, hq, hmarks⟩ := exists_target (hstart (by decide))
    (floatNumeral_eq_none hdigit) (intNumeral_eq_none hdigit) (hstart (by decide)) hu ho
  rw [target_letter (hstart (by decide)) (hstart (by decide)),
    firstOf_of_none _ (bind_of_none _ (call_name hne hfunction hr)), firstOf_singleton] at hx
  obtain ⟨m, v', -, hx⟩ := bind_eq_some_iff.1 hx
  cases hx
  rw [hmarks, Target.marks_metric hq]

/-- **No parameter is read as a call with parameters.** -/
theorem astray_param {p : Literal} {text : String} (hp : p.IsUnsigned)
    (ht : p.parameterText = .ok text) (hr : Closes r) (ps : List Literal) (ms : List Mark) :
    Astray Unary.reduce (.call (some ps) :: ms) (unary expression (text.toList ++ r)) := by
  have hliteral : ∀ {o : Operand}, o.marks = [.literal] →
      (∃ u, unary expression (text.toList ++ r) = some (u, r) ∧ u.reduce = .ok o) →
      Astray Unary.reduce (.call (some ps) :: ms) (unary expression (text.toList ++ r)) := by
    rintro o ho ⟨u, hu, hreduce⟩ v t hv y hy
    rw [hu] at hv
    cases hv
    rw [hreduce] at hy
    cases hy
    rw [ho]
    exact Departs.head (by simp) _ _
  have hfollows : Follows r := .inr (.inl hr)
  cases hp with
  | @int n h =>
    cases ht
    refine hliteral (o := .int n) rfl (unary_int ?_ hfollows)
    exact minValue_lt_of_nonneg h
  | string s =>
    cases ht
    exact hliteral (o := .string s) rfl (unary_string s r)
  | @float x h =>
    cases ht
    cases x with
    | nan => cases h
    | finite negative m => exact hliteral (o := .float _) rfl (unary_float rfl hfollows)
    | infinite negative =>
      -- infinity is written in letters
      have hpos : negative = false := by simpa [Double.isUnsigned] using h
      subst hpos
      intro u t hu o ho
      have hletters : ∀ c ∈ ['i', 'n', 'f'], isPublicChar c = true :=
        List.all_eq_true.1 (by decide)
      rw [marks_name (by simp) hletters hr hu ho]
      exact Departs.head (by simp) _ _

/-- **Operands that are read where parameters stand depart from a call with parameters.** -/
theorem astray_params {ps : List Literal} {texts : List String} (hps : ∀ p ∈ ps, p.IsUnsigned)
    (ht : ps.mapM Literal.parameterText = .ok texts) {args : List Expression} {t : List Char}
    (hargs : arguments expression ('(' :: ((Text.join ", " texts).toList ++ ')' :: r)) =
      some (args, t)) {ys : List Operand} (hys : reduceArguments args = .ok ys)
    (qs : List Literal) (ms : List Mark) :
    Departs (.call (some qs) :: ms) (ys.flatMap Operand.marks) := by
  have hall := mapM_eq_ok.1 ht
  obtain ⟨s, v, hs, hbody, -⟩ := parens_eq_some hargs
  cases hs
  rw [sepBy_expression] at hbody
  obtain ⟨e, v', he, hbody⟩ := bind_eq_some_iff.1 hbody
  obtain ⟨rest, v'', -, hbody⟩ := bind_eq_some_iff.1 hbody
  cases hbody
  rw [reduceArguments_eq, mapM_eq_ok] at hys
  cases hys with
  | @cons _ y _ ys hy hys =>
    rw [List.flatMap_cons]
    obtain ⟨u, s', x, more, hu, hx, hmarks⟩ := expression_starts he hy
    rw [hmarks, List.append_assoc]
    cases hall with
    | nil =>
      have htrim : Text.trimStart ((Text.join ", " []).toList ++ ')' :: r) = ')' :: r :=
        trimStart_of_stops (stops_cons.2 (by decide))
      rw [htrim, unary_closing] at hu
      cases hu
    | @cons p text ps texts hp hrest =>
      rw [toList_join_cons, List.append_assoc,
        trimStart_of_stops (stops_isBlank_param hp _)] at hu
      have hdeparts := astray_param (hps p (by simp)) hp (closes_joinedTail texts r) qs ms
        u s' hu x hx
      have happend := hdeparts.append [] (more ++ ys.flatMap Operand.marks)
      rw [List.append_nil] at happend
      exact happend

end

end Grammar

/-! ## Calls -/

/-- No series is without an aggregate, so that no first operand is a metric. -/
theorem bareMetric?_reread {os : List Operand} (h : ∀ o ∈ os, o.IsWritable) :
    bareMetric? (os.map Operand.reread) = none := by
  cases os with
  | nil => rfl
  | cons o os =>
    cases o with
    | timeseries t =>
      have hagg := (Operand.isWritable_timeseries.1 (h (.timeseries t) (by simp))).2
      have hreread : t.reread.hasAggregate = true := hagg
      rw [List.map_cons, Operand.reread, bareMetric?, if_pos hreread]
    | formula f => rfl
    | int n => rfl
    | float x => rfl
    | string s => rfl

namespace Grammar

section

variable {n : String} {os : List Operand} {r t : List Char}

/-- No selection is found where the operands of a call stand. -/
theorem parens_selection_operands (hne : os ≠ []) (htext : ∀ o ∈ os, IsOperandText o.text.toList)
    (r : List Char) :
    parens selection ('(' :: ((Text.join ", " (os.map Operand.text)).toList ++ ')' :: r)) =
      none := by
  obtain ⟨o, os, rfl⟩ := List.exists_cons_of_ne_nil hne
  rw [List.map_cons, toList_join_cons, List.append_assoc]
  exact parens_selection_operand (htext o (by simp)) (closes_joinedTail _ r)

/-- **Where a call of operands without parameters stands, that call is found.** -/
theorem call_operands (hn : IsCallName n.toList) (hne : os ≠ [])
    (htext : ∀ o ∈ os, IsOperandText o.text.toList) (hr : r.head? ≠ some '(') {c : Call} :
    call expression
        (n.toList ++ '(' :: ((Text.join ", " (os.map Operand.text)).toList ++ ')' :: r)) =
          some (c, t) ↔
      ∃ args, arguments expression
        ('(' :: ((Text.join ", " (os.map Operand.text)).toList ++ ')' :: r)) = some (args, t) ∧
        c = .function n none args := by
  have hcurried : curriedCall
      (n.toList ++ '(' :: ((Text.join ", " (os.map Operand.text)).toList ++ ')' :: r)) = none := by
    obtain ⟨o, os, rfl⟩ := List.exists_cons_of_ne_nil hne
    rw [List.map_cons]
    refine curriedCall_operands hn (fun u hu => ?_) hr
    rw [← List.map_cons] at hu
    obtain ⟨o', ho', rfl⟩ := List.mem_map.1 hu
    exact htext o' ho'
  have hselection := parens_selection_operands hne htext r
  have hname := functionName_append hn
    ((Text.join ", " (os.map Operand.text)).toList ++ ')' :: r)
  rw [call_apply, firstOf_of_none _ hcurried, firstOf_singleton]
  constructor
  · intro h
    obtain ⟨name, s', hread, hc⟩ := plainCall_eq_some h
    rw [hname] at hread
    cases hread
    rcases hc with ⟨inner, hinner, -⟩ | ⟨args, hargs, rfl⟩
    · rw [hselection] at hinner
      cases hinner
    · exact ⟨args, hargs, rfl⟩
  · rintro ⟨args, hargs, rfl⟩
    unfold plainCall
    rw [firstOf_of_none, firstOf_singleton, bind_of_some _ hname, bind_of_some _ hargs, pure_apply]
    rw [bind_of_some _ hname]
    exact bind_of_none _ hselection

/-- Where a call of operands with parameters stands, that call is found, or one without
parameters. -/
theorem call_operands_curried {params : List Param} {s : List Char} (hne : os ≠ [])
    (htext : ∀ o ∈ os, IsOperandText o.text.toList)
    (hhead : curriedHead s = some ((n, params),
      '(' :: ((Text.join ", " (os.map Operand.text)).toList ++ ')' :: r))) {c : Call}
    (h : call expression s = some (c, t)) :
    (∃ args, arguments expression
      ('(' :: ((Text.join ", " (os.map Operand.text)).toList ++ ')' :: r)) = some (args, t) ∧
      c = .function n (some params) args) ∨ plainCall s = some (c, t) := by
  rw [call_apply] at h
  rcases firstOf_cons_eq_some_iff.1 h with h | ⟨-, h⟩
  · obtain ⟨name, params', s', hread, hc⟩ := curriedCall_eq_some h
    rw [hhead] at hread
    cases hread
    rcases hc with ⟨inner, hinner, -⟩ | ⟨args, hargs, rfl⟩
    · rw [parens_selection_operands hne htext r] at hinner
      cases hinner
    · exact .inl ⟨args, hargs, rfl⟩
  · rw [firstOf_singleton] at h
    exact .inr h

/-- A call with parameters is found when its operands are read. -/
theorem call_curried {params : List Param} {s s' : List Char} {args : List Expression}
    (hhead : curriedHead s = some ((n, params), s')) (hselection : parens selection s' = none)
    (hargs : arguments expression s' = some (args, t)) :
    call expression s = some (.function n (some params) args, t) := by
  rw [call_apply]
  refine firstOf_of_some _ ?_
  unfold curriedCall
  rw [firstOf_of_none, firstOf_singleton, bind_of_some _ hhead]
  · exact bind_of_some _ hargs
  · rw [bind_of_some _ hhead]
    exact bind_of_none _ hselection

/-- **A call without parameters in the place of one with parameters departs from it.** -/
theorem departs_plainCall {ps : List Literal} {curry : String} {s : List Char}
    (hn : IsCallName n.toList) (hps : AreUnsigned (some ps))
    (hcurry : Literal.curryText (some ps) = .ok curry) {c : Call} {q : Query}
    (hc : plainCall (n.toList ++ (curry.toList ++ s)) = some (c, t)) (hq : c.reduce = .ok q)
    (qs : List Literal) (ms : List Mark) : Departs (.call (some qs) :: ms) q.toOperand.marks := by
  rcases curry_cases hcurry with ⟨h, -⟩ | ⟨ps', texts, ⟨⟩, htexts, rfl⟩
  · cases h
  have htext : ("(" ++ Text.join ", " texts ++ ")").toList ++ s =
      '(' :: ((Text.join ", " texts).toList ++ ')' :: s) := by
    simp
  rw [htext] at hc
  obtain ⟨name, s', hread, hcall⟩ := plainCall_eq_some hc
  rw [functionName_append hn] at hread
  cases hread
  rcases hcall with ⟨inner, -, rfl⟩ | ⟨args, hargs, rfl⟩
  · rcases Call.marks_aggregate hq with hmarks | hmarks
    · rw [hmarks]
      exact Departs.head (by simp) _ _
    · rw [hmarks]
      exact Departs.head (by simp) _ _
  · obtain ⟨ys, hys, hmarks⟩ := Call.marks_function hq
    rw [hmarks, Formula.headMarks]
    split
    · -- the name is that of a sign, and the first argument tells
      exact astray_params hps htexts hargs hys qs ms
    · exact Departs.head (by simp [Formula.new]) _ _

end

end Grammar

/-- The mark of a call is its own. -/
theorem Formula.marks_function {f : Formula} (hop : f.sign? = none) :
    (Operand.formula f).marks = .call f.parameters :: f.operands.flatMap Operand.marks := by
  rw [Operand.marks_formula, Formula.headMarks, hop]
  rfl

theorem Formula.rereads_function {f : Formula} {asked : Operand → Prop} (hop : f.sign? = none)
    (hneg : f.function ≠ negation) (r : List Char) :
    (Operand.formula f).RereadsWith asked r ↔
      asked (.formula f) ∧ Operand.RereadAll asked ", " f.operands (')' :: (f.suffix.toList ++ r)) := by
  have hclosing : f.closing.toList ++ r = ')' :: (f.suffix.toList ++ r) := by
    rw [Formula.closing]
    simp [hneg]
  rw [Operand.rereads_formula, hclosing, Formula.separator, hop]

/-- A call of operands is regular where its parameters are finite. -/
theorem Formula.not_rereadAll {f : Formula} (hop : f.sign? = none) (hneg : f.function ≠ negation)
    {r : List Char} (hfinite : AreFinite f.parameters) (hnot : ¬ (Operand.formula f).Rereads r) :
    ¬ Operand.RereadAll Operand.IsRegular ", " f.operands (')' :: (f.suffix.toList ++ r)) :=
  fun hall => hnot ((rereads_function hop hneg r).2 ⟨⟨hfinite, fun e => absurd e hneg⟩, hall⟩)

namespace Operand

variable {f : Formula}

theorem isOperandText_operands (h : (Operand.formula f).IsWritable) :
    ∀ o ∈ f.operands, IsOperandText o.text.toList :=
  fun o ho => ((isWritable_formula.1 h).2.2 o ho).isOperandText

/-- Where a call of operands without parameters stands, nothing else is found. -/
theorem call_plain (h : (Operand.formula f).IsWritable) {r : List Char} (hr : Follows r) {c : Call}
    {t : List Char} :
    call expression
        (f.function.toList ++ '(' :: (f.argumentsText ++ ')' :: (f.suffix.toList ++ r))) =
          some (c, t) ↔
      ∃ args, arguments expression ('(' :: (f.argumentsText ++ ')' :: (f.suffix.toList ++ r))) =
        some (args, t) ∧ c = .function f.function none args := by
  obtain ⟨hf, -, -⟩ := isWritable_formula.1 h
  have hparen : r.head? ≠ some '(' := hr.head?_ne (by decide) (by decide) (by decide)
  exact call_operands hf.function hf.operands (isOperandText_operands h)
    (head?_suffix_ne hf.suffix_eq hparen)

theorem text_plain (h : (Operand.formula f).IsWritable) (hop : f.sign? = none)
    (hneg : f.function ≠ negation) (hnone : f.parameters = none) (r : List Char) :
    (Operand.formula f).text.toList ++ r =
      f.function.toList ++ '(' :: (f.argumentsText ++ ')' :: (f.suffix.toList ++ r)) := by
  have hcurry : f.curry = "" := by
    rw [Formula.curry, hnone]
    rfl
  rw [Formula.text_function h hop hneg, hcurry, String.toList_empty, List.nil_append]

/-- A call of operands without parameters is read back. -/
theorem returns_plain (h : (Operand.formula f).IsWritable) (hop : f.sign? = none)
    (hneg : f.function ≠ negation) (hnone : f.parameters = none)
    (ih : ∀ o ∈ f.operands, o.Returns) : (Operand.formula f).Returns := by
  obtain ⟨hf, -, hos⟩ := isWritable_formula.1 h
  intro r hr hclear
  have hall := readAllAs_reread ih ((Formula.rereads_function hop hneg r).1 hclear).2
  obtain ⟨args, hargs, hreduce⟩ := arguments_read hf.operands (isOperandText_operands h) hall
  have hq : (Call.function f.function none args).reduce =
      .ok (.formula (.new f.function (f.operands.map reread))) := by
    rw [Call.reduce, bind_of_ok _ hreduce, Surface.apply, applyFunction, bareMetric?_reread hos]
  have hread := unary_call hf.function ((call_plain h hr).2 ⟨args, hargs, rfl⟩) hf.selection
    hf.suffix_eq hr hq rfl rfl
  have hreread := Formula.reread_eq f
  rw [hnone] at hreread
  rw [ReadsAs, text_plain h hop hneg hnone, ← hreread]
  exact hread

/-- What is read departs from a call of operands without parameters where one of them is mistaken. -/
theorem strays_plain (h : (Operand.formula f).IsWritable) (hop : f.sign? = none)
    (hneg : f.function ≠ negation) (hnone : f.parameters = none)
    (ih : ∀ o ∈ f.operands, o.ReadsBack) : (Operand.formula f).Strays := by
  obtain ⟨hf, -, -⟩ := isWritable_formula.1 h
  intro r hr hnot
  have hall := Formula.not_rereadAll hop hneg (by simp [AreFinite, hnone]) hnot
  rw [Formula.marks_function hop, hnone, text_plain h hop hneg hnone]
  refine astray_call hf.function (fun c t q hc hq => ?_) (Departs.head (by simp) _ _)
  obtain ⟨args, hargs, rfl⟩ := (call_plain h hr).1 hc
  obtain ⟨ys, hys, hmarks⟩ := Call.marks_function hq
  have hsign : (Formula.new f.function ys).sign? = none := by
    rw [← hop, Formula.sign?, Formula.sign?, hnone]
    rfl
  rw [hmarks, Formula.headMarks, hsign]
  exact (arguments_astray ih (isOperandText_operands h) hall hargs hys).prepend [.call none]

/-- A call of operands with parameters is read back. -/
theorem returns_curried (h : (Operand.formula f).IsWritable) (hop : f.sign? = none)
    (hneg : f.function ≠ negation) {ps : List Literal} (hsome : f.parameters = some ps)
    (ih : ∀ o ∈ f.operands, o.Returns) : (Operand.formula f).Returns := by
  obtain ⟨hf, -, hos⟩ := isWritable_formula.1 h
  have htexts := isOperandText_operands h
  have hcurry : Literal.curryText (some ps) = .ok f.curry := hsome ▸ hf.curry_eq
  obtain ⟨params, hparams, hhead⟩ := curriedHead_text hf.function hcurry
  intro r hr hclear
  have hall := readAllAs_reread ih ((Formula.rereads_function hop hneg r).1 hclear).2
  obtain ⟨args, hargs, hreduce⟩ := arguments_read hf.operands htexts hall
  have hread := call_curried (hhead _) (parens_selection_operands hf.operands htexts _) hargs
  have hq : (Call.function f.function (some params) args).reduce =
      .ok (.formula ⟨f.function, rereadParameters f.parameters, f.operands.map reread, none,
        none⟩) := by
    rw [Call.reduce, bind_of_ok _ hreduce, Surface.apply, applyCurried, bareMetric?_reread hos,
      hparams, hsome]
    rfl
  obtain ⟨u, hu⟩ := curry_paren hcurry (f.argumentsText ++ ')' :: (f.suffix.toList ++ r))
  rw [ReadsAs, Formula.text_function h hop hneg, ← Formula.reread_eq, hu]
  rw [← Formula.argumentsText, hu] at hread
  exact unary_call hf.function hread hf.selection hf.suffix_eq hr hq rfl rfl

/-- What is read departs from a call of operands with parameters where one of these is infinite, or
one of those is mistaken. -/
theorem strays_curried (h : (Operand.formula f).IsWritable) (hnormal : f.IsNormal)
    (hop : f.sign? = none) (hneg : f.function ≠ negation) {ps : List Literal}
    (hsome : f.parameters = some ps) (ih : ∀ o ∈ f.operands, o.ReadsBack) :
    (Operand.formula f).Strays := by
  obtain ⟨hf, -, -⟩ := isWritable_formula.1 h
  have htexts := isOperandText_operands h
  have hcurry : Literal.curryText (some ps) = .ok f.curry := hsome ▸ hf.curry_eq
  obtain ⟨params, hparams, hhead⟩ := curriedHead_text hf.function hcurry
  intro r hr hnot
  have hcalls : ∀ c t q, call expression (f.function.toList ++ (f.curry.toList ++ '(' ::
      (f.argumentsText ++ ')' :: (f.suffix.toList ++ r)))) = some (c, t) → c.reduce = .ok q →
      Departs (.call (some ps) :: f.operands.flatMap marks) q.toOperand.marks := by
    intro c t q hc hq
    rcases call_operands_curried hf.operands htexts (hhead _) hc with ⟨args, hargs, rfl⟩ | hplain
    · obtain ⟨ys, hys, hmarks | hmarks⟩ := Call.marks_curried hq
      · rw [hmarks, hparams]
        by_cases hsame : ps.map Literal.reread = ps
        · have hfinite : AreFinite f.parameters := by
            rw [← hnormal.parameters.plain_iff, hsome]
            exact map_reread_eq_self_iff.1 hsame
          rw [hsame]
          exact (arguments_astray ih htexts (Formula.not_rereadAll hop hneg hfinite hnot) hargs
            hys).prepend [.call (some ps)]
        · exact Departs.head (by simpa using fun e => hsame e.symm) _ _
      · rw [hmarks]
        exact Departs.head (by simp) _ _
    · exact departs_plainCall hf.function (hsome ▸ hnormal.parameters) hcurry hplain hq _ _
  obtain ⟨u, hu⟩ := curry_paren hcurry (f.argumentsText ++ ')' :: (f.suffix.toList ++ r))
  rw [Formula.marks_function hop, Formula.text_function h hop hneg, hsome]
  rw [hu] at hcalls ⊢
  exact astray_call hf.function hcalls (Departs.head (by simp) _ _)

/-- **A call of operands is read back.** -/
theorem returns_function (h : (Operand.formula f).IsWritable) (hop : f.sign? = none)
    (hneg : f.function ≠ negation) (ih : ∀ o ∈ f.operands, o.Returns) :
    (Operand.formula f).Returns := by
  cases hparameters : f.parameters with
  | none => exact returns_plain h hop hneg hparameters ih
  | some ps => exact returns_curried h hop hneg hparameters ih

/-- What is read departs from a normal call of operands where something in its text is mistaken. -/
theorem strays_function (h : (Operand.formula f).IsWritable) (hnormal : f.IsNormal)
    (hop : f.sign? = none) (hneg : f.function ≠ negation) (ih : ∀ o ∈ f.operands, o.ReadsBack) :
    (Operand.formula f).Strays := by
  cases hparameters : f.parameters with
  | none => exact strays_plain h hop hneg hparameters ih
  | some ps => exact strays_curried h hnormal hop hneg hparameters ih

/-! ## All operands -/

/-- **Every writable operand is read back, where nothing in its text is mistaken.** -/
theorem IsWritable.returns {o : Operand} (h : o.IsWritable) : o.Returns := by
  induction o using Operand.induction with
  | formula f ih =>
    have hread : ∀ o ∈ f.operands, o.Returns :=
      fun o ho => ih o ho ((isWritable_formula.1 h).2.2 o ho)
    cases hop : f.sign? with
    | some op => exact returns_sign h hop hread
    | none =>
      by_cases hneg : f.function = negation
      · exact returns_minus h hneg hread
      · exact returns_function h hop hneg hread
  | timeseries t => exact returns_timeseries h
  | int n =>
    intro r hr _
    rw [ReadsAs, text, print]
    exact unary_int (isWritable_int.1 h) hr
  | float x =>
    intro r hr _
    rw [ReadsAs, text, print]
    exact unary_float (isWritable_float.1 h) hr
  | string s =>
    intro r _ _
    rw [ReadsAs, text, print]
    exact unary_string s r

/-- **Every writable operand that is normal is read back as it was written, or what is read departs
from it.** -/
theorem IsWritable.readsBack {o : Operand} (h : o.IsWritable) (hnormal : o.IsNormal) :
    o.ReadsBack := by
  induction o using Operand.induction with
  | formula f ih =>
    obtain ⟨hf, hos⟩ := isNormal_formula.1 hnormal
    have hread : ∀ o ∈ f.operands, o.ReadsBack :=
      fun o ho => ih o ho ((isWritable_formula.1 h).2.2 o ho) (hos o ho)
    refine hnormal.readsBack h.returns ?_
    cases hop : f.sign? with
    | some op => exact strays_sign h hop hread
    | none =>
      by_cases hneg : f.function = negation
      · exact strays_minus h hneg hread
      · exact strays_function h hf hop hneg hread
  | timeseries t =>
    exact hnormal.readsBack h.returns (strays_timeseries h (isNormal_timeseries.1 hnormal))
  | int n =>
    exact hnormal.readsBack h.returns fun r _ hnot =>
      absurd (rereads_iff.2 ((rereads_int n).2 trivial)) hnot
  | float x =>
    exact hnormal.readsBack h.returns fun r _ hnot =>
      absurd (rereads_iff.2 ((rereads_float x).2 trivial)) hnot
  | string s =>
    exact hnormal.readsBack h.returns fun r _ hnot =>
      absurd (rereads_iff.2 ((rereads_string s).2 trivial)) hnot

end Operand

end MetricQuery
