import MetricQuery.Proofs.FilterText
import MetricQuery.Proofs.CallSites

/-!
# Calls in a text

What the parts of the grammar of calls read off written calls, and where they fail.

* `functionName_append`  : the name of a call;
* `curriedHead_text`     : the name and the parameters of a curried call;
* `curriedCall_operands` : no curried call starts where a call of operands does.
-/

set_option autoImplicit false

namespace MetricQuery

namespace Grammar

open Scanner Surface Outcome

/-! ## Names -/

section

variable {n : String}

theorem functionName_append (hn : IsCallName n.toList) (s : List Char) :
    functionName (n.toList ++ '(' :: s) = some (n, '(' :: s) := by
  have hstop : Stops isFunctionChar ('(' :: s) := by
    rw [stops_cons]
    decide
  unfold functionName
  rw [bind_of_some _ (takeSome_of_stops hn.nonempty hn.chars hstop), pure_apply,
    String.ofList_toList]

/-- A call starts with no character that is not of a function's name. -/
theorem head?_call_ne (hn : IsCallName n.toList) {x : Char} (hx : isFunctionChar x = false)
    (s : List Char) : (n.toList ++ s).head? ≠ some x :=
  head?_append_ne hn.nonempty hn.chars hx s

theorem takeWhile_isDigit_call (n : String) (s : List Char) :
    (n.toList ++ '(' :: s).takeWhile Char.isDigit = n.toList.takeWhile Char.isDigit := by
  refine takeWhile_append_stops ?_
  rw [stops_cons]
  decide

theorem intNumeral_call (hn : IsCallName n.toList) (s : List Char) :
    intNumeral (n.toList ++ '(' :: s) = none := by
  rw [intNumeral_eq_none_iff]
  intro digits rest hrun
  rw [takeSome_apply, takeWhile_isDigit_call] at hrun
  split at hrun
  · cases hrun
  · rename_i c cs hdigits
    cases hrun
    rw [← hdigits]
    exact hn.digits.resolve_left (by simp [hdigits])

/-- No point stands behind the digits that a name starts with. -/
theorem floatNumeral_call (hn : IsCallName n.toList) (s : List Char) :
    floatNumeral (n.toList ++ '(' :: s) = none := by
  cases hrun : takeSome Char.isDigit (n.toList ++ '(' :: s) with
  | none => exact bind_of_none _ hrun
  | some found =>
    obtain ⟨digits, rest⟩ := found
    unfold floatNumeral
    rw [bind_of_some _ hrun]
    refine bind_of_none _ (char_eq_none ?_)
    intro hpoint
    obtain ⟨happ, -, hall, -⟩ := takeSome_eq_some_iff.1 hrun
    obtain ⟨rest', rfl⟩ := List.head?_eq_some_iff.1 hpoint
    -- the point belongs to the name, or the parenthesis to the digits
    rcases List.append_eq_append_iff.1 happ with ⟨w, rfl, hw⟩ | ⟨w, hw, hrest⟩
    · cases w with
      | nil => cases hw
      | cons c w =>
        cases hw
        exact absurd (hall '(' (by simp)) (by decide)
    · cases w with
      | nil => cases hrest
      | cons c w =>
        cases hrest
        exact absurd (hn.chars '.' (by rw [hw]; simp)) (by decide)

end

/-! ## What operands start with -/

/-- The text of a literal. -/
inductive IsLiteralText : List Char → Prop where
  | int {m : Nat} (h : m < integerBound) : IsLiteralText (Nat.toDigits 10 m)
  | float {whole fraction : List Char} (hwhole : IsNumeral whole) (hfraction : IsNumeral fraction) :
      IsLiteralText (whole ++ '.' :: fraction)
  | negative {w : List Char} (h : ∀ c ∈ w, c.isDigit = true ∨ c = '.') : IsLiteralText ('-' :: w)
  | quoted (s : String) : IsLiteralText (Text.quote s).toList

/-- What stands in front of the first parenthesis of a formula or of a series. -/
inductive IsHead : List Char → Prop where
  | parens : IsHead []
  | minus : IsHead ['-']
  | name {n : List Char} (h : IsCallName n) : IsHead n

/-- The text of an operand: a literal, or something in parentheses behind a head. -/
def IsOperandText (t : List Char) : Prop :=
  IsLiteralText t ∨ ∃ w s, IsHead w ∧ t = w ++ '(' :: s

section

variable {r : List Char}

theorem isNameChar_of_digit {c : Char} (h : c.isDigit = true ∨ c = '.') : isNameChar c = true := by
  rcases h with h | rfl
  · exact isNameChar_of_isFunctionChar (isFunctionChar_of_isDigit h)
  · decide

/-- **A parameter is read where a literal stands.** -/
theorem IsLiteralText.param_some {t : List Char} (h : IsLiteralText t) (hr : Closes r) :
    ∃ p, param (t ++ r) = some (p, r) := by
  cases h with
  | int hm => exact ⟨_, param_int hm hr⟩
  | float hwhole hfraction => exact ⟨_, param_float hwhole hfraction hr⟩
  | @negative w hw =>
    have hdigit : Stops Char.isDigit ('-' :: w ++ r) := by simp
    refine ⟨_, param_unquoted (by simp) (fun c hc => ?_) (hr.stops (by decide) (by decide))
      (floatNumeral_eq_none hdigit) (intNumeral_eq_none hdigit)⟩
    rcases List.mem_cons.1 hc with rfl | hc
    · decide
    · exact isUnquoted_of_isNameChar (isNameChar_of_digit (hw c hc))
  | quoted s => exact ⟨_, param_quoted s r⟩

/-- No metric is read where a text starts that is no name and no identifier. -/
theorem metric_eq_none {s : List Char} (hquote : s.head? ≠ some backQuote)
    (hbare : bareMri s = none) (hpublic : Stops isPublicChar s) : metric s = none := by
  have hname : publicName s = none := bind_of_none _ (takeSome_eq_none hpublic)
  rw [metric_eq_publicName hquote hbare, hname, Option.map_none]

/-- Digits and points make no metric. -/
theorem metric_number {w : List Char} (hne : w ≠ [])
    (hw : ∀ c ∈ w, c.isDigit = true ∨ c = '.' ∨ c = '-') (hr : Closes r) :
    metric (w ++ r) = none := by
  have hclass : ∀ c ∈ w, (isMriChar c && c != ':') = true ∧ isPublicChar c = false := by
    intro c hc
    rcases hw c hc with hd | rfl | rfl
    · have hname := isNameChar_of_digit (c := c) (.inl hd)
      have hcolon : c ≠ ':' := ne_of_class hname (by decide)
      exact ⟨by simp [isMriChar_of_isNameChar hname, hcolon], isPublicChar_of_isDigit hd⟩
    · decide
    · decide
  refine metric_eq_none ?_ ?_ ?_
  · exact head?_append_ne hne (fun c hc => (hclass c hc).1) (by decide) r
  · exact bareMri_eq_none (fun c hc => (hclass c hc).1) (hr.stops (by decide) (by decide))
      (hr.head?_ne (by decide) (by decide))
  · refine stops_append hne (p := fun c => !isPublicChar c) (fun c hc => ?_) (fun c hc => ?_) r
    · rw [(hclass c hc).2]
      rfl
    · simpa using hc

theorem IsLiteralText.metric_eq_none {t : List Char} (h : IsLiteralText t) (hr : Closes r) :
    metric (t ++ r) = none := by
  cases h with
  | @int m hm =>
    have hnumeral := isNumeral_toDigits m
    exact metric_number hnumeral.1 (fun c hc => .inl (hnumeral.2 c hc)) hr
  | @float whole fraction hwhole hfraction =>
    refine metric_number (by simp) (fun c hc => ?_) hr
    rcases List.mem_append.1 hc with hc | hc
    · exact .inl (hwhole.2 c hc)
    · rcases List.mem_cons.1 hc with rfl | hc
      · exact .inr (.inl rfl)
      · exact .inl (hfraction.2 c hc)
  | @negative w hw =>
    refine metric_number (by simp) (fun c hc => ?_) hr
    rcases List.mem_cons.1 hc with rfl | hc
    · exact .inr (.inr rfl)
    · rcases hw c hc with hd | rfl
      · exact .inl hd
      · exact .inr (.inl rfl)
  | quoted s =>
    rw [Text.toList_quote, List.cons_append]
    refine Grammar.metric_eq_none (by simp; decide) ?_ (by simp; decide)
    exact bareMri_eq_none (w := []) (by simp) (by simp; decide) (by simp)

/-! ## Heads -/

theorem IsHead.chars {w : List Char} (h : IsHead w) :
    ∀ c ∈ w, isFunctionChar c = true ∨ c = '-' := by
  cases h with
  | parens => simp
  | minus => simp
  | name h => exact fun c hc => .inl (h.chars c hc)

theorem IsHead.isUnquoted {w : List Char} (h : IsHead w) : ∀ c ∈ w, isUnquoted c = true := by
  intro c hc
  rcases h.chars c hc with hc | rfl
  · exact isUnquoted_of_isNameChar (isNameChar_of_isFunctionChar hc)
  · decide

theorem IsHead.isMriChar {w : List Char} (h : IsHead w) :
    ∀ c ∈ w, (isMriChar c && c != ':') = true := by
  intro c hc
  rcases h.chars c hc with hc | rfl
  · have hname := isNameChar_of_isFunctionChar hc
    have hcolon : c ≠ ':' := ne_of_class hname (by decide)
    simp [isMriChar_of_isNameChar hname, hcolon]
  · decide

/-- A head is read as a parameter up to its parenthesis. -/
theorem IsHead.param_some {w : List Char} (h : IsHead w) (hne : w ≠ []) (s : List Char) :
    param (w ++ '(' :: s) = some (.string (String.ofList w), '(' :: s) := by
  have hstop : Stops Grammar.isUnquoted ('(' :: s) := by
    rw [stops_cons]
    decide
  cases h with
  | parens => exact absurd rfl hne
  | minus =>
    have hdigit : Stops Char.isDigit (['-'] ++ '(' :: s) := by simp
    have hall : ∀ c ∈ ['-'], Grammar.isUnquoted c = true := List.all_eq_true.1 (by decide)
    exact param_unquoted hne hall hstop (floatNumeral_eq_none hdigit) (intNumeral_eq_none hdigit)
  | name hn =>
    have hn' : IsCallName (String.ofList w).toList := by
      rw [String.toList_ofList]
      exact hn
    have hfloat := floatNumeral_call hn' s
    have hint := intNumeral_call hn' s
    rw [String.toList_ofList] at hfloat hint
    exact param_unquoted hne (IsHead.name hn).isUnquoted hstop hfloat hint

theorem param_paren (s : List Char) : param ('(' :: s) = none := by
  have hdigit : Stops Char.isDigit ('(' :: s) := by simp
  unfold param
  rw [firstOf_of_none _ (bind_of_none _ (floatNumeral_eq_none hdigit)),
    firstOf_of_none _ (bind_of_none _ (intNumeral_eq_none hdigit)),
    firstOf_of_none _ (bind_of_none _ (quoted_eq_none (by simp))),
    firstOf_of_none _ (bind_of_none _ (unquoted_eq_none (by simp; decide))), firstOf_nil]

/-- **What is read as a parameter where an operand stands**: the operand, if it is a literal, and else
its head, if there is one. -/
theorem IsOperandText.param_cases {t : List Char} (h : IsOperandText t) (hr : Closes r) :
    (∃ p, param (t ++ r) = some (p, r)) ∨
      (∃ s, t ++ r = '(' :: s ∧ param (t ++ r) = none) ∨
      ∃ p s, param (t ++ r) = some (p, '(' :: s) := by
  rcases h with hliteral | ⟨w, s, hw, rfl⟩
  · exact .inl (hliteral.param_some hr)
  · rw [List.append_assoc, List.cons_append]
    by_cases hne : w = []
    · subst hne
      exact .inr (.inl ⟨s ++ r, rfl, param_paren _⟩)
    · exact .inr (.inr ⟨_, _, hw.param_some hne _⟩)

/-- What is left of a call where only a part of its name was read. -/
def Stuck (s : List Char) : Prop :=
  ∃ c rest, s = c :: rest ∧ (c = '(' ∨ isFunctionChar c = true ∧ isPublicChar c = false)

theorem Stuck.head?_ne {s : List Char} (h : Stuck s) {x : Char} (hparen : x ≠ '(')
    (hx : isFunctionChar x = false ∨ isPublicChar x = true) : s.head? ≠ some x := by
  obtain ⟨c, rest, rfl, hc⟩ := h
  intro e
  cases e
  rcases hc with rfl | ⟨hf, hp⟩
  · exact hparen rfl
  · rcases hx with hx | hx <;> simp_all

theorem Stuck.trimStart_eq {s : List Char} (h : Stuck s) : Text.trimStart s = s := by
  obtain ⟨c, rest, rfl, hc⟩ := h
  refine trimStart_of_stops ?_
  rw [stops_cons]
  rcases hc with rfl | ⟨hf, -⟩
  · decide
  · exact isBlank_of_isNameChar (isNameChar_of_isFunctionChar hf)

/-- A public name goes on as long as it can. -/
theorem publicName_rest {s n t : List Char} (h : publicName s = some (n, t)) :
    Stops isPublicChar t ∧ ∃ m, s = m ++ t ∧ ∀ c ∈ m, isPublicChar c = true ∨ c = '.' := by
  obtain ⟨first, t1, hfirst, h⟩ := bind_eq_some_iff.1 h
  obtain ⟨rest, t2, hrest, h⟩ := bind_eq_some_iff.1 h
  cases h
  obtain ⟨rfl, -, hall, hstop⟩ := takeSome_eq_some_iff.1 hfirst
  refine (many_keeps (fun u => Stops isPublicChar u ∧ ∃ m, first ++ t1 = m ++ u ∧
    ∀ c ∈ m, isPublicChar c = true ∨ c = '.') (fun _ => True) ?_
    ⟨hstop, first, rfl, fun c hc => .inl (hall c hc)⟩ hrest).1
  rintro u part v ⟨-, m, hm, hclass⟩ hstep
  obtain ⟨_, u1, hpoint, hstep⟩ := bind_eq_some_iff.1 hstep
  obtain ⟨w, u2, hw, hstep⟩ := bind_eq_some_iff.1 hstep
  cases hstep
  obtain rfl := char_eq_some_iff.1 hpoint
  obtain ⟨rfl, -, hall', hstop'⟩ := takeSome_eq_some_iff.1 hw
  refine ⟨⟨hstop', m ++ '.' :: w, by simp [hm], fun c hc => ?_⟩, trivial⟩
  rcases List.mem_append.1 hc with hc | hc
  · exact hclass c hc
  · rcases List.mem_cons.1 hc with rfl | hc
    · exact .inr rfl
    · exact .inl (hall' c hc)

/-- No metric but one with a public name starts with a head. -/
theorem metric_head {w : List Char} (hw : IsHead w) (s : List Char) :
    metric (w ++ '(' :: s) =
      (publicName (w ++ '(' :: s)).map fun found => (.publicName (String.ofList found.1), found.2) := by
  have hstop : Stops (fun c => Grammar.isMriChar c && c != ':') ('(' :: s) := by
    rw [stops_cons]
    decide
  have hbare : bareMri (w ++ '(' :: s) = none :=
    bareMri_eq_none hw.isMriChar hstop (by simp)
  have hquote : (w ++ '(' :: s).head? ≠ some backQuote := by
    by_cases hne : w = []
    · subst hne
      simp [backQuote]
    · exact head?_append_ne hne hw.isMriChar (by decide) _
  exact metric_eq_publicName hquote hbare

/-- A public name is at most a part of the name of a call. -/
theorem stuck_of_publicName {w s n t : List Char} (hw : IsHead w)
    (h : publicName (w ++ '(' :: s) = some (n, t)) : Stuck t := by
  obtain ⟨hpublic, m, hm, hclass⟩ := publicName_rest h
  rcases List.append_eq_append_iff.1 hm with ⟨v, rfl, hv⟩ | ⟨v, hv, rfl⟩
  · -- the name would have read the parenthesis
    cases v with
    | nil => exact ⟨'(', s, hv.symm, .inl rfl⟩
    | cons c v =>
      cases hv
      exact absurd (hclass '(' (by simp)) (by decide)
  · cases v with
    | nil => exact ⟨'(', s, rfl, .inl rfl⟩
    | cons c v =>
      rw [List.cons_append, stops_cons] at hpublic
      refine ⟨c, v ++ '(' :: s, rfl, .inr ⟨?_, hpublic⟩⟩
      rcases hw.chars c (by rw [hv]; simp) with hc | rfl
      · exact hc
      · -- a minus is a head of its own, and no public name
        exfalso
        cases hw with
        | parens => simp at hv
        | minus =>
          have hnone : publicName (['-'] ++ '(' :: s) = none :=
            bind_of_none _ (takeSome_eq_none (by simp; decide))
          rw [hnone] at h
          cases h
        | name hn => exact absurd (hn.chars '-' (by rw [hv]; simp)) (by decide)

/-- A metric is at most a part of the name of a call. -/
theorem stuck_of_metric {w s t : List Char} {m : MetricRef} (hw : IsHead w)
    (h : metric (w ++ '(' :: s) = some (m, t)) : Stuck t := by
  rw [metric_head hw] at h
  obtain ⟨⟨n, u⟩, hname, h⟩ := Option.map_eq_some_iff.1 h
  cases h
  exact stuck_of_publicName hw hname

end

/-! ## Parentheses around operands -/

section

variable {r : List Char}

theorem IsLiteralText.stops_isBlank {t : List Char} (h : IsLiteralText t) (s : List Char) :
    Stops Text.isBlank (t ++ s) := by
  have hname : ∀ c, isNameChar c = true → Text.isBlank c = false := fun _ => isBlank_of_isNameChar
  cases h with
  | @int m hm =>
    have hnumeral := isNumeral_toDigits m
    exact stops_append hnumeral.1 (fun c hc => isNameChar_of_digit (.inl (hnumeral.2 c hc))) hname s
  | @float whole fraction hwhole hfraction =>
    rw [List.append_assoc]
    exact stops_append hwhole.1 (fun c hc => isNameChar_of_digit (.inl (hwhole.2 c hc))) hname _
  | negative =>
    rw [List.cons_append, stops_cons]
    decide
  | quoted s' => exact stops_isBlank_quote s' s

theorem IsHead.stops_isBlank {w : List Char} (h : IsHead w) (s : List Char) :
    Stops Text.isBlank (w ++ '(' :: s) := by
  by_cases hne : w = []
  · subst hne
    rw [List.nil_append, stops_cons]
    decide
  · refine stops_append hne h.isMriChar (fun c hc => ?_) _
    simp only [Grammar.isMriChar, Bool.and_eq_true, Bool.not_eq_true'] at hc
    simp [hc]

theorem IsOperandText.stops_isBlank {t : List Char} (h : IsOperandText t) (s : List Char) :
    Stops Text.isBlank (t ++ s) := by
  rcases h with h | ⟨w, u, hw, rfl⟩
  · exact h.stops_isBlank s
  · rw [List.append_assoc, List.cons_append]
    exact hw.stops_isBlank _

/-- No selection is read where an operand stands: what is read of a name is not all of it. -/
theorem stuck_of_selection {t u : List Char} {x : Selection} (ht : IsOperandText t)
    (hr : Closes r) (h : selection (t ++ r) = some (x, u)) : Stuck u := by
  obtain ⟨m, s1, hm, h⟩ := bind_eq_some_iff.1 h
  have hstuck : Stuck s1 := by
    rcases ht with ht | ⟨w, s, hw, rfl⟩
    · rw [ht.metric_eq_none hr] at hm
      cases hm
    · rw [List.append_assoc, List.cons_append] at hm
      exact stuck_of_metric hw hm
  have hbraces : optionalBraces s1 = some (none, s1) :=
    optionalBraces_eq_none (hstuck.head?_ne (by decide) (.inl (by decide)))
  have hgroupBy : groupBy s1 = none := by
    refine groupBy_eq_none ?_
    rw [hstuck.trimStart_eq]
    exact hstuck.head?_ne (by decide) (.inr (by decide))
  rw [bind_of_some _ hbraces, bind_of_some _ (attempt_of_none hgroupBy)] at h
  cases h
  exact hstuck

theorem parens_selection_operand {t : List Char} (ht : IsOperandText t) (hr : Closes r) :
    parens selection ('(' :: (t ++ r)) = none := by
  cases h : parens selection ('(' :: (t ++ r)) with
  | none => rfl
  | some found =>
    obtain ⟨x, v⟩ := found
    obtain ⟨s, u, hs, hbody, hclose⟩ := parens_eq_some h
    cases hs
    rw [trimStart_of_stops (ht.stops_isBlank r)] at hbody
    have hstuck := stuck_of_selection ht hr hbody
    rw [hstuck.trimStart_eq] at hclose
    exact absurd (congrArg List.head? hclose) (hstuck.head?_ne (by decide) (.inl (by decide)))

/-- Behind operands there is a comma or a parenthesis. -/
theorem closes_joinedTail (texts : List String) (r : List Char) :
    Closes (joinedTail ", " texts ++ ')' :: r) := by
  refine joinedTail_follows Closes (fun t _ s => .inl ?_) (.inr rfl)
  rfl

/-- What comes behind a parameter. -/
def furtherParam : Scanner Param := do
  comma
  param

theorem furtherParam_eq_none {c : Char} (hblank : Text.isBlank c = false) (hc : c ≠ ',')
    (s : List Char) : furtherParam (c :: s) = none :=
  bind_of_none _ (comma_eq_none (head?_trimStart_ne hblank hc s))

/-- Parameters stop at the parenthesis of a head. -/
theorem many_furtherParam_paren (s : List Char) :
    many furtherParam ('(' :: s) = some ([], '(' :: s) :=
  many_nil (furtherParam_eq_none (by decide) (by decide) s)

/-- No closing parenthesis comes next. -/
def StaysOpen (s : List Char) : Prop := (Text.trimStart s).head? ≠ some ')'

theorem staysOpen_paren (s : List Char) : StaysOpen ('(' :: s) :=
  head?_trimStart_ne (by decide) (by decide) s

/-- Parameters are read up to the closing parenthesis, or up to an operand that is no literal. -/
theorem many_params {texts : List String} (h : ∀ t ∈ texts, IsOperandText t.toList) :
    ∀ {ps u}, many furtherParam (joinedTail ", " texts ++ ')' :: r) = some (ps, u) →
      u = ')' :: r ∨ StaysOpen u := by
  induction texts with
  | nil =>
    intro ps u hmany
    have hstop : furtherParam (joinedTail ", " [] ++ ')' :: r) = none :=
      furtherParam_eq_none (by decide) (by decide) r
    rw [many_nil hstop] at hmany
    cases hmany
    exact .inl rfl
  | cons t texts ih =>
    intro ps u hmany
    have ht := h t (by simp)
    have htail : joinedTail ", " (t :: texts) ++ ')' :: r =
        ", ".toList ++ (t.toList ++ (joinedTail ", " texts ++ ')' :: r)) := by
      simp [joinedTail]
    have hstep : furtherParam (joinedTail ", " (t :: texts) ++ ')' :: r) =
        param (t.toList ++ (joinedTail ", " texts ++ ')' :: r)) := by
      rw [htail]
      exact bind_of_some _ (comma_space (ht.stops_isBlank _))
    have hlonger : (t.toList ++ (joinedTail ", " texts ++ ')' :: r)).length <
        (joinedTail ", " (t :: texts) ++ ')' :: r).length := by
      have hcomma : 0 < ", ".toList.length := by decide
      rw [htail]
      simp only [List.length_append]
      omega
    rcases ht.param_cases (closes_joinedTail texts r) with ⟨p, hp⟩ | ⟨s, -, hp⟩ | ⟨p, s, hp⟩
    · -- a literal is a parameter
      rw [hp] at hstep
      obtain ⟨ps', -, hmany⟩ :=
        many_eq_some_of_step hstep (Nat.lt_of_le_of_lt (Shrinks.length_le hp) hlonger) hmany
      exact ih (fun t ht => h t (by simp [ht])) hmany
    · -- a comma is left in front of a parenthesis
      rw [hp] at hstep
      rw [many_nil hstep] at hmany
      cases hmany
      exact .inr (by rw [htail]; exact head?_trimStart_ne (by decide) (by decide) _)
    · -- a head is a parameter, and its parenthesis is left
      rw [hp] at hstep
      obtain ⟨ps', -, hmany⟩ :=
        many_eq_some_of_step hstep (Nat.lt_of_le_of_lt (Shrinks.length_le hp) hlonger) hmany
      rw [many_furtherParam_paren] at hmany
      cases hmany
      exact .inr (staysOpen_paren s)

theorem sepBy_param : sepBy param comma = (do
    let first ← param
    let rest ← many furtherParam
    pure (first :: rest)) := rfl

theorem sepBy_param_of_some {s t u : List Char} {p : Param} {ps : List Param}
    (hp : param s = some (p, t)) (hmany : many furtherParam t = some (ps, u)) :
    sepBy param comma s = some (p :: ps, u) := by
  rw [sepBy_param, bind_of_some _ hp, bind_of_some _ hmany, pure_apply]

theorem sepBy_param_of_none {s : List Char} (hp : param s = none) : sepBy param comma s = none :=
  bind_of_none _ hp

/-- Parameters in the place of operands are read up to the closing parenthesis, or up to an operand
that is no literal. -/
theorem attempt_params {t : String} {texts : List String}
    (h : ∀ u ∈ t :: texts, IsOperandText u.toList) {found : Option (List Param)} {v : List Char}
    (hread : attempt (sepBy param comma) (t.toList ++ (joinedTail ", " texts ++ ')' :: r)) =
      some (found, v)) : v = ')' :: r ∨ StaysOpen v := by
  rcases (h t (by simp)).param_cases (closes_joinedTail texts r) with
    ⟨p, hp⟩ | ⟨s, hparen, hp⟩ | ⟨p, s, hp⟩
  · obtain ⟨rest, v', hmany⟩ := many_isSome furtherParam (joinedTail ", " texts ++ ')' :: r)
    rw [attempt_of_some (sepBy_param_of_some hp hmany)] at hread
    cases hread
    exact many_params (fun u hu => h u (by simp [hu])) hmany
  · rw [attempt_of_none (sepBy_param_of_none hp), hparen] at hread
    cases hread
    exact .inr (staysOpen_paren s)
  · rw [attempt_of_some (sepBy_param_of_some hp (many_furtherParam_paren s))] at hread
    cases hread
    exact .inr (staysOpen_paren s)

/-- Parameters are found in the place of operands only where these are literals. -/
theorem parens_params_operands {t : String} {texts : List String}
    (h : ∀ u ∈ t :: texts, IsOperandText u.toList) {found : Option (List Param)} {u : List Char}
    (hread : parens (attempt (sepBy param comma))
      ('(' :: ((Text.join ", " (t :: texts)).toList ++ ')' :: r)) = some (found, u)) : u = r := by
  obtain ⟨s, v, hs, hbody, hclose⟩ := parens_eq_some hread
  cases hs
  rw [toList_join_cons, List.append_assoc,
    trimStart_of_stops ((h t (by simp)).stops_isBlank _)] at hbody
  rcases attempt_params h hbody with rfl | hopen
  · rw [trimStart_of_stops (by simp; decide)] at hclose
    exact (List.cons.inj hclose).2.symm
  · rw [StaysOpen, hclose] at hopen
    exact absurd rfl hopen

theorem curriedHead_call {n : String} (hn : IsCallName n.toList) {s u : List Char}
    {head : String × List Param} :
    curriedHead (n.toList ++ '(' :: s) = some (head, u) ↔
      ∃ found, parens (attempt (sepBy param comma)) ('(' :: s) = some (found, u) ∧
        head = (n, found.getD []) := by
  unfold curriedHead
  rw [bind_of_some _ (functionName_append hn _), bind_eq_some_iff]
  constructor
  · rintro ⟨found, v, hparams, hread⟩
    cases hread
    exact ⟨found, hparams, rfl⟩
  · rintro ⟨found, hparams, rfl⟩
    exact ⟨found, u, hparams, rfl⟩

theorem curriedCall_eq_some {s t : List Char} {c : Call} (h : curriedCall s = some (c, t)) :
    ∃ name params s', curriedHead s = some ((name, params), s') ∧
      ((∃ inner, parens selection s' = some (inner, t) ∧ c = .aggregate name (some params) inner) ∨
        ∃ args, arguments expression s' = some (args, t) ∧
          c = .function name (some params) args) := by
  rcases firstOf_cons_eq_some_iff.1 h with h | ⟨-, h⟩
  · obtain ⟨⟨name, params⟩, s', hhead, h⟩ := bind_eq_some_iff.1 h
    obtain ⟨inner, t', hinner, h⟩ := bind_eq_some_iff.1 h
    cases h
    exact ⟨name, params, s', hhead, .inl ⟨inner, hinner, rfl⟩⟩
  rcases firstOf_cons_eq_some_iff.1 h with h | ⟨-, h⟩
  · obtain ⟨⟨name, params⟩, s', hhead, h⟩ := bind_eq_some_iff.1 h
    obtain ⟨args, t', hargs, h⟩ := bind_eq_some_iff.1 h
    cases h
    exact ⟨name, params, s', hhead, .inr ⟨args, hargs, rfl⟩⟩
  · cases h

/-- **A call with parameters is found in the place of one without them exactly if the identifier is
captured**, whatever the name of the function is. -/
theorem curriedCall_eq_none_iff {n : String} (hn : IsCallName n.toList) {m : List Char} :
    curriedCall (n.toList ++ '(' :: (m ++ ')' :: r)) = none ↔ ¬ IsCaptured m r := by
  rw [← Option.not_isSome_iff_eq_none, not_iff_not]
  constructor
  · intro h
    obtain ⟨⟨c, t⟩, hcall⟩ := Option.isSome_iff_exists.1 h
    obtain ⟨name, params, u, hhead, hc⟩ := curriedCall_eq_some hcall
    obtain ⟨found, hparams, -⟩ := (curriedHead_call hn).1 hhead
    refine ⟨found, u, hparams, ?_⟩
    rcases hc with ⟨inner, hinner, -⟩ | ⟨args, hargs, -⟩
    · exact .inl (Option.isSome_of_eq_some hinner)
    · exact .inr (Option.isSome_of_eq_some hargs)
  · rintro ⟨found, u, hparams, hbehind⟩
    have hhead := (curriedHead_call hn).2 ⟨found, hparams, rfl⟩
    unfold curriedCall
    rw [firstOf_cons, firstOf_singleton, Option.isSome_or, Bool.or_eq_true, bind_of_some _ hhead,
      bind_of_some _ hhead]
    refine hbehind.imp (fun h => ?_) (fun h => ?_)
    · obtain ⟨⟨inner, t⟩, hinner⟩ := Option.isSome_iff_exists.1 h
      exact Option.isSome_of_eq_some (bind_of_some _ hinner)
    · obtain ⟨⟨args, t⟩, hargs⟩ := Option.isSome_iff_exists.1 h
      exact Option.isSome_of_eq_some (bind_of_some _ hargs)

/-- Where an identifier is captured, a second parenthesis opens right behind the first pair. -/
theorem IsCaptured.exists_behind {m : List Char} (h : IsCaptured m r) :
    ∃ found u, parens (attempt (sepBy param comma)) ('(' :: (m ++ ')' :: r)) = some (found, u) ∧
      u.head? = some '(' := by
  obtain ⟨found, u, hparams, hbehind⟩ := h
  refine ⟨found, u, hparams, ?_⟩
  by_contra hu
  have hselection : parens selection u = none := parens_eq_none hu
  have harguments : arguments expression u = none := parens_eq_none hu
  simp [hselection, harguments] at hbehind

/-- **No call with parameters of its own starts where a call of operands does**, if no parenthesis
follows. -/
theorem curriedCall_operands {n t : String} {texts : List String} (hn : IsCallName n.toList)
    (h : ∀ u ∈ t :: texts, IsOperandText u.toList) (hr : r.head? ≠ some '(') :
    curriedCall (n.toList ++ '(' :: ((Text.join ", " (t :: texts)).toList ++ ')' :: r)) = none := by
  refine (curriedCall_eq_none_iff hn).2 fun hcaptured => ?_
  obtain ⟨found, u, hparams, hu⟩ := hcaptured.exists_behind
  rw [parens_params_operands h hparams] at hu
  exact hr hu

end

/-! ## Curried heads -/

/-- Parameters are in parentheses, if there are any. -/
theorem curry_cases {parameters : Option (List Literal)} {curry : String}
    (h : Literal.curryText parameters = .ok curry) :
    parameters = none ∧ curry = "" ∨
      ∃ ps texts, parameters = some ps ∧ ps.mapM Literal.parameterText = .ok texts ∧
        curry = "(" ++ Text.join ", " texts ++ ")" := by
  cases parameters with
  | none =>
    cases h
    exact .inl ⟨rfl, rfl⟩
  | some ps =>
    rw [Literal.curryText, Literal.parameterTexts_eq] at h
    obtain ⟨texts, htexts, h⟩ := bind_eq_ok.1 h
    cases pure_eq_ok.1 h
    exact .inr ⟨ps, texts, rfl, htexts, rfl⟩

theorem curry_paren {parameters : Option (List Literal)} {curry : String}
    (h : Literal.curryText parameters = .ok curry) (s : List Char) :
    ∃ u, curry.toList ++ '(' :: s = '(' :: u := by
  rcases curry_cases h with ⟨-, rfl⟩ | ⟨ps, texts, -, -, rfl⟩
  · exact ⟨s, rfl⟩
  · exact ⟨(Text.join ", " texts).toList ++ ')' :: '(' :: s, by simp⟩

theorem stops_isBlank_param {p : Literal} {text : String} (ht : p.parameterText = .ok text)
    (s : List Char) : Stops Text.isBlank (text.toList ++ s) := by
  cases Literal.isSpelledAs_of_parameterText ht with
  | int _ hm htext =>
    rw [htext]
    exact (IsLiteralText.int hm).stops_isBlank s
  | float _ htext hw hf =>
    rw [htext]
    exact (IsLiteralText.float hw hf).stops_isBlank s
  | quoted s' => exact stops_isBlank_quote s' s
  | bare _ hbare =>
    refine stops_append hbare.nonempty hbare.chars (fun c hc => ?_) s
    rw [← Bool.not_eq_true]
    intro hblank
    simp [isUnquoted, hblank] at hc

/-- The texts of parameters are read one by one, numbers with a minus and infinities as texts. -/
theorem exists_params {ps : List Literal} {texts : List String}
    (h : List.Forall₂ (fun p t => p.parameterText = .ok t) ps texts) :
    ∃ params : List Param, params.map Param.toLiteral = ps.map Literal.reread ∧
      List.Forall₂ (fun t q => ∀ r, Closes r → param (t.toList ++ r) = some (q, r) ∧
        comma (", ".toList ++ (t.toList ++ r)) = some ((), t.toList ++ r)) texts params := by
  induction h with
  | nil => exact ⟨[], rfl, .nil⟩
  | @cons p t ps texts hpt _ ih =>
    obtain ⟨q, hq, hread⟩ := param_text hpt
    obtain ⟨params, hparams, hreads⟩ := ih
    exact ⟨q :: params, by simp [hq, hparams],
      .cons (fun r hr => ⟨hread r hr, comma_space (stops_isBlank_param hpt r)⟩) hreads⟩

/-- No parameter starts with a parenthesis that closes. -/
theorem sepBy_param_close (r : List Char) : sepBy param comma (')' :: r) = none := by
  have hdigit : Stops Char.isDigit (')' :: r) := by simp
  refine sepBy_param_of_none ?_
  unfold param
  rw [firstOf_of_none _ (bind_of_none _ (floatNumeral_eq_none hdigit)),
    firstOf_of_none _ (bind_of_none _ (intNumeral_eq_none hdigit)),
    firstOf_of_none _ (bind_of_none _ (quoted_eq_none (by simp))),
    firstOf_of_none _ (bind_of_none _ (unquoted_eq_none (by simp; decide))), firstOf_nil]

/-- Parameters that are written are read, numbers with a minus and infinities as texts. -/
theorem parens_params {ps : List Literal} {texts : List String}
    (ht : ps.mapM Literal.parameterText = .ok texts) :
    ∃ params : List Param, params.map Param.toLiteral = ps.map Literal.reread ∧
      ∀ r, ∃ found : Option (List Param), found.getD [] = params ∧
        parens (attempt (sepBy param comma))
          ('(' :: ((Text.join ", " texts).toList ++ ')' :: r)) = some (found, r) := by
  have hall := mapM_eq_ok.1 ht
  obtain ⟨params, hparams, hreads⟩ := exists_params hall
  have hcomma : ∀ r, comma (')' :: r) = none :=
    fun r => comma_eq_none (head?_trimStart_ne (by decide) (by decide) r)
  refine ⟨params, hparams, fun r => ?_⟩
  cases hall with
  | nil =>
    -- no parameters at all
    cases hreads
    have hblank : Stops Text.isBlank (')' :: r) := stops_cons.2 (by decide)
    exact ⟨none, rfl, parens_of_some hblank (attempt_of_none (sepBy_param_close r))⟩
  | @cons p t ps' texts' hpt _ =>
    have hread : sepBy param comma ((Text.join ", " (t :: texts')).toList ++ ')' :: r) =
        some (params, ')' :: r) :=
      sepBy_join Closes (by simp) (by decide) hreads (fun _ _ _ => .inl rfl) (.inr rfl) (hcomma r)
    have hblank : Stops Text.isBlank ((Text.join ", " (t :: texts')).toList ++ ')' :: r) := by
      rw [toList_join_cons, List.append_assoc]
      exact stops_isBlank_param hpt _
    exact ⟨some params, rfl, parens_of_some hblank (attempt_of_some hread)⟩

/-- **The head of a curried call reads back**, numbers with a minus and infinities apart. -/
theorem curriedHead_text {n curry : String} {ps : List Literal} (hn : IsCallName n.toList)
    (h : Literal.curryText (some ps) = .ok curry) :
    ∃ params : List Param, params.map Param.toLiteral = ps.map Literal.reread ∧
      ∀ r, curriedHead (n.toList ++ (curry.toList ++ r)) = some ((n, params), r) := by
  rcases curry_cases h with ⟨h, -⟩ | ⟨ps', texts, ⟨⟩, htexts, rfl⟩
  · cases h
  · obtain ⟨params, hparams, hread⟩ := parens_params htexts
    refine ⟨params, hparams, fun r => ?_⟩
    obtain ⟨found, hfound, hread⟩ := hread r
    have htext : ("(" ++ Text.join ", " texts ++ ")").toList ++ r =
        '(' :: ((Text.join ", " texts).toList ++ ')' :: r) := by
      simp
    unfold curriedHead
    rw [htext, bind_of_some _ (functionName_append hn _), bind_of_some _ hread, hfound, pure_apply]

end Grammar

end MetricQuery
