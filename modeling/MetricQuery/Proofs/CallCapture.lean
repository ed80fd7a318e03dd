import MetricQuery.Proofs.CallText
import MetricQuery.Proofs.Depth

/-!
# Identifiers that are not captured

In front of a call of a metric the grammar looks for parameters, and may find them in the metric
itself: up to the first closing parenthesis, if an opening one follows there, or in a quoted text
that starts in the metric and ends anywhere behind it.  Identifiers that hold neither of these are
safe; and where nothing follows the call, so are all in which no parenthesis is closed and opened.

* `Mri.IsGuarded`             : no parenthesis is closed and opened, and no quote follows a comma;
* `not_isCaptured_of_guarded` : a guarded identifier is not captured;
* `not_isCaptured_of_noCall`  : at the end of a text, the parentheses alone decide.
-/

set_option autoImplicit false

namespace MetricQuery

open Scanner

/-! ## Guarded texts -/

/-- No parenthesis is opened by another character behind a text. -/
theorem Mri.noCall_concat {c : Char} {s : List Char} (hc : c ≠ '(') (h : ¬ [')', '('] <:+: s) :
    ¬ [')', '('] <:+: s ++ [c] := by
  rintro ⟨a, b, e⟩
  rcases List.eq_nil_or_concat b with rfl | ⟨b', y, rfl⟩
  · have hlast := congrArg List.getLast? e
    simp only [List.append_nil, List.getLast?_append_cons] at hlast
    exact hc (Option.some.inj hlast).symm
  · rw [List.concat_eq_append, ← List.append_assoc] at e
    exact h ⟨a, b', List.append_inj_left' e rfl⟩

theorem Mri.noCall_backQuoted {s : List Char} (h : ¬ [')', '('] <:+: s) :
    ¬ [')', '('] <:+: Grammar.backQuote :: (s ++ [Grammar.backQuote]) := by
  rw [List.infix_cons_iff, not_or]
  refine ⟨fun hstart => ?_, noCall_concat (by decide) h⟩
  exact absurd (List.cons_prefix_cons.1 hstart).1 (by decide)

/-- A text in which no parameters can end in front of an opening parenthesis, and in which no quoted
parameter starts. -/
structure Mri.IsGuarded (s : List Char) : Prop where
  noCall : ¬ [')', '('] <:+: s
  noQuote : ∀ a b w, s = a ++ ',' :: (b ++ '"' :: w) → ∃ c ∈ b, Text.isBlank c = false

namespace Mri.IsGuarded

variable {s : List Char}

theorem of_append {w : List Char} (h : IsGuarded (s ++ w)) : IsGuarded s where
  noCall hcall := h.noCall (hcall.trans (List.prefix_append s w).isInfix)
  noQuote a b v e := h.noQuote a b (v ++ w) (by rw [e]; simp)

/-- A text without parentheses and commas is guarded. -/
theorem of_notMem (hparen : ')' ∉ s) (hcomma : ',' ∉ s) : IsGuarded s where
  noCall := fun ⟨a, b, e⟩ => hparen (by rw [← e]; simp)
  noQuote a b w e := absurd (by rw [e]; simp) hcomma

/-- Back quotes around a guarded text leave it guarded. -/
theorem backQuoted (h : IsGuarded s) :
    IsGuarded (Grammar.backQuote :: (s ++ [Grammar.backQuote])) := by
  refine ⟨noCall_backQuoted h.noCall, fun a b w e => ?_⟩
  cases a with
  | nil => exact absurd (List.cons.inj e).1 (by decide)
  | cons x a =>
    have e' : s ++ [Grammar.backQuote] = (a ++ ',' :: (b ++ ['"'])) ++ w := by
      simpa using (List.cons.inj e).2
    rcases List.eq_nil_or_concat w with rfl | ⟨w', y, rfl⟩
    · rw [List.append_nil, ← List.cons_append, ← List.append_assoc] at e'
      exact absurd (List.append_inj_right' e' rfl) (by decide)
    · rw [List.concat_eq_append, ← List.append_assoc] at e'
      refine h.noQuote a b w' ?_
      rw [List.append_inj_left' e' rfl]
      simp

end Mri.IsGuarded

namespace Grammar

open Surface

/-! ## In front of a closing parenthesis -/

/-- What is left is an end of `m` with a closing parenthesis and `rest` behind it. -/
def Inside (m rest s : List Char) : Prop := ∃ a v, m = a ++ v ∧ s = v ++ ')' :: rest

section

variable {m rest s t : List Char}

/-- What was read without a closing parenthesis was read in `m`. -/
theorem Inside.exists_read {w : List Char} (h : Inside m rest (w ++ t)) (hw : ')' ∉ w) :
    ∃ a v, m = a ++ (w ++ v) ∧ t = v ++ ')' :: rest := by
  obtain ⟨a, v, rfl, hs⟩ := h
  rcases List.append_eq_append_iff.1 hs with ⟨x, rfl, ht⟩ | ⟨x, hx, hrest⟩
  · exact ⟨a, x, rfl, ht⟩
  · cases x with
    | nil =>
      rw [List.append_nil] at hx
      exact ⟨a, [], by rw [hx, List.append_nil], hrest.symm⟩
    | cons c x =>
      cases hrest
      exact absurd (by rw [hx]; simp) hw

theorem Inside.of_append {w : List Char} (h : Inside m rest (w ++ t)) (hw : ')' ∉ w) :
    Inside m rest t := by
  obtain ⟨a, v, hm, ht⟩ := h.exists_read hw
  exact ⟨a ++ w, v, by rw [hm, List.append_assoc], ht⟩

theorem Inside.takeSome {p : Char → Bool} {w : List Char} (h : Inside m rest s)
    (hp : p ')' = false) (hread : takeSome p s = some (w, t)) : Inside m rest t := by
  obtain ⟨rfl, -, hall, -⟩ := takeSome_eq_some_iff.1 hread
  refine h.of_append fun hmem => ?_
  rw [hall _ hmem] at hp
  cases hp

theorem notMem_of_blank {b : List Char} (h : ∀ c ∈ b, Text.isBlank c = true) : ')' ∉ b :=
  fun hmem => absurd (h _ hmem) (by decide)

theorem Inside.trimStart (h : Inside m rest s) : Inside m rest (Text.trimStart s) := by
  obtain ⟨b, hs, hb⟩ := trimStart_eq s
  rw [hs] at h
  exact h.of_append (notMem_of_blank hb)

/-- **A parameter that is not quoted ends in `m`.** -/
theorem Inside.param {p : Param} (h : Inside m rest s) (hquote : s.head? ≠ some '"')
    (hread : Grammar.param s = some (p, t)) : Inside m rest t := by
  unfold Grammar.param at hread
  rcases firstOf_cons_eq_some_iff.1 hread with hread | ⟨-, hread⟩
  · obtain ⟨x, u, hx, hread⟩ := bind_eq_some_iff.1 hread
    cases hread
    obtain ⟨whole, s1, hwhole, hx⟩ := bind_eq_some_iff.1 hx
    obtain ⟨_, s2, hpoint, hx⟩ := bind_eq_some_iff.1 hx
    obtain ⟨fraction, s3, hfraction, hx⟩ := bind_eq_some_iff.1 hx
    cases hx
    have h1 := h.takeSome (by decide) hwhole
    rw [char_eq_some_iff.1 hpoint] at h1
    exact (h1.of_append (w := ['.']) (by decide)).takeSome (by decide) hfraction
  rcases firstOf_cons_eq_some_iff.1 hread with hread | ⟨-, hread⟩
  · obtain ⟨n, u, hn, hread⟩ := bind_eq_some_iff.1 hread
    cases hread
    obtain ⟨digits, hdigits, -⟩ := intNumeral_eq_some_iff.1 hn
    exact h.takeSome (by decide) hdigits
  rcases firstOf_cons_eq_some_iff.1 hread with hread | ⟨-, hread⟩
  · rw [bind_of_none _ (quoted_eq_none hquote)] at hread
    cases hread
  rcases firstOf_cons_eq_some_iff.1 hread with hread | ⟨-, hread⟩
  · obtain ⟨w, u, hw, hread⟩ := bind_eq_some_iff.1 hread
    cases hread
    obtain ⟨cs, s1, hcs, hw⟩ := bind_eq_some_iff.1 hw
    cases hw
    exact h.takeSome (by decide) hcs
  · cases hread

/-- Behind a comma in a guarded text there is no quote. -/
theorem Inside.furtherParam {p : Param} (hm : Mri.IsGuarded m) (h : Inside m rest s)
    (hread : Grammar.furtherParam s = some (p, t)) : Inside m rest t := by
  obtain ⟨_, s', hcomma, hread⟩ := bind_eq_some_iff.1 hread
  obtain ⟨s2, hchar, rfl⟩ := comma_eq_some hcomma
  have hstart := h.trimStart
  rw [hchar] at hstart
  have hbehind : Inside m rest s2 := hstart.of_append (w := [',']) (by decide)
  refine hbehind.trimStart.param (fun hquote => ?_) hread
  obtain ⟨b, hs2, hb⟩ := trimStart_eq s2
  obtain ⟨u, hu⟩ := List.head?_eq_some_iff.1 hquote
  have hall : Inside m rest ((',' :: (b ++ ['"'])) ++ u) := by
    rw [hs2, hu] at hstart
    simpa using hstart
  have hnotMem : ')' ∉ ',' :: (b ++ ['"']) := by
    have := notMem_of_blank hb
    simp [this]
  obtain ⟨a, v, hm', -⟩ := hall.exists_read hnotMem
  obtain ⟨c, hc, hblank⟩ := hm.noQuote a b v (by rw [hm']; simp)
  rw [hb c hc] at hblank
  cases hblank

theorem Inside.params {found : Option (List Param)} (hm : Mri.IsGuarded m) (h : Inside m rest s)
    (hquote : s.head? ≠ some '"')
    (hread : attempt (sepBy Grammar.param comma) s = some (found, t)) : Inside m rest t := by
  rcases attempt_eq_some_iff.1 hread with ⟨ps, -, hps⟩ | ⟨-, rfl, -⟩
  · rw [sepBy_param] at hps
    obtain ⟨p, s1, hp, hps⟩ := bind_eq_some_iff.1 hps
    obtain ⟨rest', s2, hrest, hps⟩ := bind_eq_some_iff.1 hps
    cases hps
    have hstep : ∀ s p r, Inside m rest s → Grammar.furtherParam s = some (p, r) →
        Inside m rest r ∧ True := fun s p r hs hr => ⟨hs.furtherParam hm hr, trivial⟩
    exact (many_keeps (Inside m rest) (fun _ => True) hstep (h.param hquote hp) hrest).1
  · exact h

end

/-! ## Calls of a metric -/

/-- A guarded text is cut at its first closing parenthesis, behind which none is opened. -/
theorem exists_closing {s rest : List Char} (h : Mri.IsGuarded s) (hrest : rest.head? ≠ some '(') :
    ∃ m rest', s ++ ')' :: rest = m ++ ')' :: rest' ∧ Mri.IsGuarded m ∧ ')' ∉ m ∧
      (∃ w, s = m ++ w) ∧ rest'.head? ≠ some '(' := by
  by_cases hmem : ')' ∈ s
  · obtain ⟨m, w, rfl, hm⟩ := List.eq_append_cons_of_mem hmem
    refine ⟨m, w ++ ')' :: rest, by simp, h.of_append, hm, ⟨_, rfl⟩, fun hhead => ?_⟩
    cases w with
    | nil => simp at hhead
    | cons c w =>
      have hc : c = '(' := by simpa using hhead
      subst hc
      exact h.noCall ⟨m, w, by simp⟩
  · exact ⟨s, rest, rfl, h, hmem, ⟨[], by simp⟩, hrest⟩

/-- **A guarded identifier is not captured** where no parenthesis follows the call. -/
theorem not_isCaptured_of_guarded {s rest : List Char} (h : Mri.IsGuarded s)
    (hblank : ∀ r, Stops Text.isBlank (s ++ ')' :: r)) (hquote : s.head? ≠ some '"')
    (hrest : rest.head? ≠ some '(') : ¬ IsCaptured s rest := by
  intro hcaptured
  obtain ⟨m, rest', hcut, hm, hparen, ⟨w, hw⟩, hrest'⟩ := exists_closing h hrest
  have hstart : (s ++ ')' :: rest).head? ≠ some '"' := by
    cases s with
    | nil => simp
    | cons c s => simpa using hquote
  obtain ⟨params, v, hparams, hv⟩ := hcaptured.exists_behind
  obtain ⟨s', t, hs', hbody, hclose⟩ := parens_eq_some hparams
  cases hs'
  rw [trimStart_of_stops (hblank rest)] at hbody
  have hinside : Inside m rest' (s ++ ')' :: rest) := ⟨[], m, rfl, hcut⟩
  obtain ⟨a, v', hmv, ht⟩ := (hinside.params hm hstart hbody).trimStart
  rw [hclose] at ht
  -- the first closing parenthesis ends the parameters
  cases v' with
  | nil =>
    cases ht
    exact hrest' hv
  | cons c v' =>
    cases ht
    exact absurd (by rw [hmv]; simp) hparen

/-- **At the end of a text, an identifier is not captured** in which no parenthesis is closed and
opened: parameters would have to end in it. -/
theorem not_isCaptured_of_noCall {s : List Char} (h : ¬ [')', '('] <:+: s) :
    ¬ IsCaptured s [] := by
  intro hcaptured
  obtain ⟨found, u, hparams, hu⟩ := hcaptured.exists_behind
  obtain ⟨t, v, ht, hbody, hclose⟩ := parens_eq_some hparams
  cases ht
  obtain ⟨u, rfl⟩ := List.head?_eq_some_iff.1 hu
  have hbehind : ')' :: '(' :: u <:+ s ++ [')'] := by
    rw [← hclose]
    exact (List.dropWhile_suffix _).trans
      ((Shrinks.suffix hbody).trans (List.dropWhile_suffix _))
  have hcall : [')', '('] <:+: ')' :: '(' :: u := ⟨[], u, rfl⟩
  exact Mri.noCall_concat (by decide) h (hcall.trans hbehind.isInfix)

end Grammar

/-! ## Metrics -/

/-- No other character is in a public name. -/
theorem IsPublicName.notMem {s : List Char} (h : IsPublicName s) {c : Char}
    (hpublic : Grammar.isPublicChar c = false) (hpoint : c ≠ '.') : c ∉ s := by
  intro hc
  rcases h.chars c hc with h | h
  · rw [hpublic] at h
    cases h
  · exact hpoint h

theorem mriText_cases (name : String) :
    (Grammar.isBareMri name.toList = true ∧ (mriText name).toList = name.toList) ∨
      (mriText name).toList = Grammar.backQuote :: (name.toList ++ [Grammar.backQuote]) := by
  unfold mriText
  split
  · rename_i hbare
    exact .inl ⟨hbare, rfl⟩
  · exact .inr (by simp [Grammar.backQuote])

namespace Metric.IsNamed

variable {m : Metric} {text : String}

/-- Where the identifier of a metric is guarded, so is its text. -/
theorem isGuarded (h : m.IsNamed) (ht : m.print = .ok text)
    (hmri : ∀ mri, m.mri = some mri → Mri.IsGuarded mri.toList) :
    Mri.IsGuarded text.toList ∧ text.toList.head? ≠ some '"' := by
  cases h with
  | publicName hname =>
    cases ht
    refine ⟨.of_notMem (hname.notMem (by decide) (by decide))
      (hname.notMem (by decide) (by decide)), fun hquote => ?_⟩
    exact absurd (List.mem_of_mem_head? hquote) (hname.notMem (by decide) (by decide))
  | @mri name hname =>
    cases ht
    have hguarded : Mri.IsGuarded name.toList := hmri name rfl
    rcases mriText_cases name with ⟨hbare, htext⟩ | htext
    · rw [htext]
      refine ⟨hguarded, fun hquote => ?_⟩
      have hclass := List.all_eq_true.1 hbare _ (List.mem_of_mem_head? hquote)
      exact absurd hclass (by decide)
    · rw [htext]
      exact ⟨hguarded.backQuoted, by simp [Grammar.backQuote]⟩

/-- The text of a metric closes and opens parentheses only where its identifier does. -/
theorem noCall (h : m.IsNamed) (ht : m.print = .ok text)
    (hmri : ∀ mri, m.mri = some mri → ¬ [')', '('] <:+: mri.toList) :
    ¬ [')', '('] <:+: text.toList := by
  cases h with
  | publicName hname =>
    cases ht
    have hparen : ')' ∉ text.toList := hname.notMem (by decide) (by decide)
    exact fun hcall => hparen (hcall.subset (by simp))
  | @mri name hname =>
    cases ht
    have hname : ¬ [')', '('] <:+: name.toList := hmri name rfl
    rcases mriText_cases name with ⟨-, htext⟩ | htext
    · rwa [htext]
    · rw [htext]
      exact Mri.noCall_backQuoted hname

end Metric.IsNamed

end MetricQuery
