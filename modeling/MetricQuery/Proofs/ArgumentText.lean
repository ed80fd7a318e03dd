import MetricQuery.Proofs.ExpressionText

/-!
# Operands of a call

The operands of a call are read one after the other.  As long as nothing is mistaken each of them is
read back; from the first mistake on, the marks depart.

* `Operand.Returns`          : an operand is read back where nothing is mistaken;
* `Operand.ReadsBack`        : a normal operand is, or else what is read departs from it;
* `Grammar.arguments_read`   : the operands of a call are read one by one;
* `Grammar.arguments_astray` : their marks depart where one of them is mistaken.
-/

set_option autoImplicit false

namespace MetricQuery

open Grammar Scanner Surface Outcome

/-! ## What texts of operands start with -/

theorem Operand.text_formula {f : Formula} (h : (Operand.formula f).IsWritable) :
    (Operand.formula f).text =
      f.opening ++ Text.join f.separator (f.operands.map Operand.text) ++ f.closing := by
  obtain ⟨hf, -, hos⟩ := Operand.isWritable_formula.1 h
  have hprint := Formula.print_parts hf fun o ho => (hos o ho).print_eq
  rw [Operand.text, Operand.print, hprint]
  rfl

theorem isLiteralText_int {n : Int64} (h : Int64.minValue < n) :
    IsLiteralText (integerText n.toInt).toList := by
  by_cases hn : 0 ≤ n
  · obtain ⟨m, hm, -, htext⟩ := exists_digits_of_nonneg hn
    rw [htext]
    exact .int hm
  · obtain ⟨m, hm, -, htext⟩ := exists_digits_of_neg h hn
    rw [htext]
    exact .negative fun c hc => .inl ((isNumeral_toDigits m).2 c hc)

theorem isLiteralText_float {x : Double} (h : x.isFinite = true) :
    IsLiteralText x.literal.toList := by
  cases x with
  | nan => cases h
  | infinite negative => cases h
  | finite negative m =>
    obtain ⟨whole, fraction, htext, hwhole, hfraction, -⟩ := Double.exists_literal negative m
    rw [htext]
    cases negative with
    | false => exact .float hwhole hfraction
    | true =>
      refine .negative (w := whole ++ '.' :: fraction) fun c hc => ?_
      rcases List.mem_append.1 hc with hc | hc
      · exact .inl (hwhole.2 c hc)
      · rcases List.mem_cons.1 hc with rfl | hc
        · exact .inr rfl
        · exact .inl (hfraction.2 c hc)

/-- In front of the operands of a formula there is a head and a parenthesis. -/
theorem Formula.IsShaped.exists_head {f : Formula} (h : f.IsShaped) (s : List Char) :
    ∃ w u, IsHead w ∧ f.opening.toList ++ s = w ++ '(' :: u := by
  obtain ⟨u, hu⟩ := curry_paren h.curry_eq s
  unfold Formula.opening
  split
  · exact ⟨[], s, .parens, by simp⟩
  · split
    · split
      · exact ⟨['-'], u, .minus, by simp [← hu]⟩
      · exact ⟨[], '-' :: (f.curry.toList ++ '(' :: s), .parens, by simp⟩
    · exact ⟨f.function.toList, u, .name h.function, by simp [← hu]⟩

theorem Operand.IsWritable.isOperandText {o : Operand} (h : o.IsWritable) :
    IsOperandText o.text.toList := by
  cases o with
  | int n =>
    rw [Operand.text, Operand.print]
    exact .inl (isLiteralText_int (Operand.isWritable_int.1 h))
  | float x =>
    rw [Operand.text, Operand.print]
    exact .inl (isLiteralText_float (Operand.isWritable_float.1 h))
  | string s =>
    rw [Operand.text, Operand.print]
    exact .inl (.quoted s)
  | timeseries t =>
    obtain ⟨hshaped, hagg⟩ := Operand.isWritable_timeseries.1 h
    obtain ⟨u, hu⟩ := curry_paren hshaped.curry_eq (t.metric.text.toList ++ ')' :: t.suffix.toList)
    refine .inr ⟨t.aggregate.toList, u, .name hshaped.aggregate, ?_⟩
    rw [Operand.text, Operand.print, Timeseries.print_parts hshaped hagg, ← hu]
    simp [Except.toOption]
  | formula f =>
    obtain ⟨w, u, hw, heq⟩ := (Operand.isWritable_formula.1 h).1.exists_head
      ((Text.join f.separator (f.operands.map Operand.text)).toList ++ f.closing.toList)
    refine .inr ⟨w, u, hw, ?_⟩
    rw [Operand.text_formula h, ← heq]
    simp

/-! ## Operands one after the other -/

namespace Operand

/-- The text of the operand is read as `y`, where `r` follows it. -/
def ReadsAs (o : Operand) (r : List Char) (y : Operand) : Prop :=
  ∃ u, unary expression (o.text.toList ++ r) = some (u, r) ∧ u.reduce = .ok y

theorem ReadsAs.exists_expression {o y : Operand} {r : List Char} (h : o.ReadsAs r y)
    (hr : r = [] ∨ Closes r) :
    ∃ e, expression (o.text.toList ++ r) = some (e, r) ∧ e.reduce = .ok y := by
  obtain ⟨u, hu, hreduce⟩ := h
  exact ⟨.term (.unary u), expression_of_unary hu hr, by rw [reduce_unary, hreduce]⟩

/-- The text of the operand is read back, where nothing in it is mistaken. -/
def Returns (o : Operand) : Prop :=
  ∀ r, Follows r → o.RereadsWith IsLegible r → o.ReadsAs r o.reread

/-- What is read departs from the operand, where something in its text is mistaken. -/
def Strays (o : Operand) : Prop :=
  ∀ r, Follows r → ¬ o.Rereads r → Astray Unary.reduce o.marks (unary expression (o.text.toList ++ r))

/-- The text of the operand is read back as the operand, where nothing in it is mistaken, and
otherwise departs from it. -/
structure ReadsBack (o : Operand) : Prop where
  same : ∀ r, Follows r → o.Rereads r → o.ReadsAs r o.united
  strays : o.Strays

theorem HasForm.areUnsigned {n : Operand} (h : n.HasForm) : AreUnsigned n.parameters := by
  cases n with
  | formula f => exact Formula.IsNormal.parameters h
  | timeseries t => exact Timeseries.IsNormal.parameters h
  | _ => simp [AreUnsigned, parameters]

/-- What a normal operand is read back as is the operand, once it rereads. -/
theorem IsNormal.reread_eq {o : Operand} (h : o.IsNormal) {r : List Char} (ho : o.Rereads r) :
    o.reread = o.united :=
  reread_eq_united fun n hn => (h n hn).areUnsigned.plain_iff.2 (ho.1 n hn).areFinite

theorem IsNormal.readsBack {o : Operand} (h : o.IsNormal) (hreturns : o.Returns)
    (hstrays : o.Strays) : o.ReadsBack where
  same r hr ho := by
    rw [← h.reread_eq ho]
    exact hreturns r hr ho.legibly
  strays := hstrays

end Operand

namespace Grammar

/-- A comma and the argument behind it. -/
def furtherArgument : Scanner Expression := do
  comma
  expression

theorem sepBy_expression : sepBy expression comma = (do
    let first ← expression
    let rest ← many furtherArgument
    pure (first :: rest)) := rfl

/-- What is written behind the first operand of a call. -/
def argumentsTail (os : List Operand) (r : List Char) : List Char :=
  joinedTail ", " (os.map Operand.text) ++ ')' :: r

theorem closes_argumentsTail (os : List Operand) (r : List Char) : Closes (argumentsTail os r) :=
  closes_joinedTail _ r

theorem argumentsTail_cons (o : Operand) (os : List Operand) (r : List Char) :
    argumentsTail (o :: os) r = ", ".toList ++ (o.text.toList ++ argumentsTail os r) := by
  simp [argumentsTail, joinedTail]

/-- Operands that are read one after the other in a call, where `r` is behind it. -/
inductive ReadAllAs (r : List Char) : List Operand → List Operand → Prop
  | nil : ReadAllAs r [] []
  | cons {o y : Operand} {os ys : List Operand} (ho : o.ReadsAs (argumentsTail os r) y)
      (hos : ReadAllAs r os ys) : ReadAllAs r (o :: os) (y :: ys)

section

variable {r : List Char}

theorem furtherArgument_paren (s : List Char) : furtherArgument (')' :: s) = none :=
  bind_of_none _ (comma_eq_none (head?_trimStart_ne (by decide) (by decide) s))

theorem furtherArgument_apply {o : Operand} (ho : IsOperandText o.text.toList) (s : List Char) :
    furtherArgument (", ".toList ++ (o.text.toList ++ s)) = expression (o.text.toList ++ s) := by
  unfold furtherArgument
  rw [bind_of_some _ (comma_space (ho.stops_isBlank s))]

/-- The marks depart in the first operand, or else behind it. -/
theorem departs_argument {o : Operand} {os : List Operand} (hread : o.ReadsBack) {e : Expression}
    {s : List Char} (he : expression (o.text.toList ++ argumentsTail os r) = some (e, s))
    {y : Operand} (hy : e.reduce = .ok y) {found : List Mark}
    (hrest : o.Rereads (argumentsTail os r) → s = argumentsTail os r →
      Departs (os.flatMap Operand.marks) found) :
    Departs ((o :: os).flatMap Operand.marks) (y.marks ++ found) := by
  have hcloses := closes_argumentsTail os r
  rw [List.flatMap_cons]
  by_cases ho : o.Rereads (argumentsTail os r)
  · obtain ⟨e', he', hreduce⟩ :=
      (hread.same _ (.inr (.inl hcloses)) ho).exists_expression (.inr hcloses)
    rw [he'] at he
    cases he
    rw [hreduce] at hy
    cases hy
    rw [Operand.marks_united]
    exact (hrest ho rfl).prepend _
  · have hdeparts := astray_expression (hread.strays _ (.inr (.inl hcloses)) ho) [] e s he y hy
    rw [List.append_nil] at hdeparts
    exact hdeparts.append _ _

theorem argumentsTail_shrinks (o : Operand) (os : List Operand) :
    (argumentsTail os r).length < (argumentsTail (o :: os) r).length := by
  rw [argumentsTail_cons]
  simp only [List.length_append]
  have : (", ".toList).length = 2 := rfl
  omega

/-- Operands that return are read one by one. -/
theorem readAllAs_reread {os : List Operand} (hreturns : ∀ o ∈ os, o.Returns)
    (h : Operand.RereadAll Operand.IsLegible ", " os (')' :: r)) :
    ReadAllAs r os (os.map Operand.reread) := by
  induction os with
  | nil => exact .nil
  | cons o os ih =>
    refine .cons ?_ (ih (fun x hx => hreturns x (by simp [hx])) h.2)
    exact hreturns o (by simp) _ (.inr (.inl (closes_argumentsTail os r))) h.1

/-- The arguments behind the first one are read. -/
theorem furtherArguments_read {os ys : List Operand} (h : ReadAllAs r os ys)
    (htext : ∀ o ∈ os, IsOperandText o.text.toList) :
    ∃ args, many furtherArgument (argumentsTail os r) = some (args, ')' :: r) ∧
      List.Forall₂ (fun (e : Expression) y => e.reduce = .ok y) args ys := by
  induction h with
  | nil => exact ⟨[], many_nil (furtherArgument_paren r), .nil⟩
  | @cons o y os ys ho _ ih =>
    obtain ⟨args, hargs, hreduces⟩ := ih fun x hx => htext x (by simp [hx])
    obtain ⟨e, he, hreduce⟩ := ho.exists_expression (.inr (closes_argumentsTail os r))
    have hstep := furtherArgument_apply (htext o (by simp)) (argumentsTail os r)
    rw [← argumentsTail_cons] at hstep
    exact ⟨e :: args, many_cons (hstep.trans he) (argumentsTail_shrinks o os) hargs,
      .cons hreduce hreduces⟩

/-- The arguments behind the first one depart, if one of them is mistaken. -/
theorem furtherArguments_astray {os : List Operand} (hread : ∀ o ∈ os, o.ReadsBack)
    (htext : ∀ o ∈ os, IsOperandText o.text.toList)
    (hall : ¬ Operand.RereadAll Operand.IsRegular ", " os (')' :: r)) {args : List Expression}
    {t : List Char} (hmany : many furtherArgument (argumentsTail os r) = some (args, t))
    (hclose : (Text.trimStart t).head? = some ')') {ys : List Operand}
    (hys : List.Forall₂ (fun (e : Expression) y => e.reduce = .ok y) args ys) :
    Departs (os.flatMap Operand.marks) (ys.flatMap Operand.marks) := by
  induction os generalizing args ys with
  | nil => exact absurd trivial hall
  | cons o os ih =>
    have hstep := furtherArgument_apply (htext o (by simp)) (argumentsTail os r)
    rw [← argumentsTail_cons] at hstep
    rcases many_eq_some hmany with ⟨-, rfl⟩ | ⟨e, s, args', he, rfl⟩
    · -- the comma is left over
      rw [(closes_argumentsTail (o :: os) r).trimStart_eq, argumentsTail_cons] at hclose
      simp at hclose
    · cases hys with
      | @cons _ y _ ys hy hys =>
        rw [List.flatMap_cons]
        refine departs_argument (hread o (by simp)) (hstep.symm.trans he) hy fun ho hs => ?_
        -- the departure comes later
        subst hs
        obtain ⟨args'', hargs, hmany'⟩ :=
          many_eq_some_of_step he (argumentsTail_shrinks o os) hmany
        cases hargs
        exact ih (fun x hx => hread x (by simp [hx])) (fun x hx => htext x (by simp [hx]))
          (fun hos => hall ⟨ho, hos⟩) hmany' hys

theorem join_operands (o : Operand) (os : List Operand) :
    (Text.join ", " ((o :: os).map Operand.text)).toList ++ ')' :: r =
      o.text.toList ++ argumentsTail os r := by
  rw [List.map_cons, toList_join_cons, List.append_assoc]
  rfl

/-- **The operands of a call are read one by one.** -/
theorem arguments_read {os ys : List Operand} (hne : os ≠ [])
    (htext : ∀ o ∈ os, IsOperandText o.text.toList) (h : ReadAllAs r os ys) :
    ∃ args, arguments expression
      ('(' :: ((Text.join ", " (os.map Operand.text)).toList ++ ')' :: r)) = some (args, r) ∧
      reduceArguments args = .ok ys := by
  cases h with
  | nil => exact absurd rfl hne
  | @cons o y os ys ho hos =>
    obtain ⟨e, he, hreduce⟩ := ho.exists_expression (.inr (closes_argumentsTail os r))
    obtain ⟨args, hargs, hreduces⟩ :=
      furtherArguments_read hos fun x hx => htext x (by simp [hx])
    rw [join_operands]
    refine ⟨e :: args, parens_of_some ((htext o (by simp)).stops_isBlank _) ?_, ?_⟩
    · rw [sepBy_expression, bind_of_some _ he, bind_of_some _ hargs, pure_apply]
    · rw [reduceArguments_eq, mapM_eq_ok]
      exact .cons hreduce hreduces

/-- **The operands of a call depart, if one of them is mistaken.** -/
theorem arguments_astray {os : List Operand} (hread : ∀ o ∈ os, o.ReadsBack)
    (htext : ∀ o ∈ os, IsOperandText o.text.toList)
    (hall : ¬ Operand.RereadAll Operand.IsRegular ", " os (')' :: r)) {args : List Expression}
    {t : List Char} (hargs : arguments expression
      ('(' :: ((Text.join ", " (os.map Operand.text)).toList ++ ')' :: r)) = some (args, t))
    {ys : List Operand} (hys : reduceArguments args = .ok ys) :
    Departs (os.flatMap Operand.marks) (ys.flatMap Operand.marks) := by
  cases os with
  | nil => exact absurd trivial hall
  | cons o os =>
    rw [join_operands] at hargs
    rw [reduceArguments_eq, mapM_eq_ok] at hys
    obtain ⟨s, v, hs, hsep, hclose⟩ := parens_eq_some hargs
    cases hs
    rw [trimStart_of_stops ((htext o (by simp)).stops_isBlank _), sepBy_expression] at hsep
    obtain ⟨e, s, he, hsep⟩ := bind_eq_some_iff.1 hsep
    obtain ⟨rest, v', hrest, hsep⟩ := bind_eq_some_iff.1 hsep
    cases hsep
    cases hys with
    | @cons _ y _ ys hy hys =>
      rw [List.flatMap_cons]
      refine departs_argument (hread o (by simp)) he hy fun ho hs => ?_
      subst hs
      exact furtherArguments_astray (fun x hx => hread x (by simp [hx]))
        (fun x hx => htext x (by simp [hx])) (fun hos => hall ⟨ho, hos⟩) hrest
        (by rw [hclose]; rfl) hys

end

end Grammar

end MetricQuery
