import MetricQuery.Grammar.Expression
import MetricQuery.Proofs.Scanning

/-!
# The depth of parentheses

The scanners of filters and of expressions are given a depth, one more than the text is long.  It
is never used up: a pair of parentheses takes a character off the text, so what stands in them is
read with the same result at every depth that is greater than its length.

* `Shrinks`             : what a scanner leaves is an end of what it was given;
* `SameBelow`           : two scanners that cannot be told apart on short texts;
* `tagFilter_eq`        : a filter is read by the grammar of filters, with itself in parentheses;
* `expression_eq`       : and so is an expression.
-/

set_option autoImplicit false

namespace MetricQuery

namespace Scanner

variable {α β : Type}

/-! ## Scanners never add to a text -/

/-- What is left is an end of what was given.  A class, so that it is found for what scanners are
put together. -/
class Shrinks (p : Scanner α) : Prop where
  suffix : ∀ {s a r}, p s = some (a, r) → r <:+ s

/-- What is left is no longer than what was given. -/
theorem Shrinks.length_le {p : Scanner α} [Shrinks p] {s r : List Char} {a : α}
    (h : p s = some (a, r)) : r.length ≤ s.length :=
  (Shrinks.suffix h).length_le

instance (a : α) : Shrinks (pure a : Scanner α) where
  suffix h := by cases h; exact List.suffix_rfl

instance : Shrinks (fail : Scanner α) where
  suffix h := nomatch h

instance {p : Scanner α} {f : α → Scanner β} [Shrinks p] [∀ a, Shrinks (f a)] :
    Shrinks (p >>= f) where
  suffix h := by
    obtain ⟨a, r, ha, hb⟩ := bind_eq_some_iff.1 h
    exact (Shrinks.suffix hb).trans (Shrinks.suffix ha)

instance : Shrinks (firstOf ([] : List (Scanner α))) where
  suffix h := nomatch h

instance {p : Scanner α} {ps : List (Scanner α)} [Shrinks p] [Shrinks (firstOf ps)] :
    Shrinks (firstOf (p :: ps)) where
  suffix h := by
    rcases firstOf_cons_eq_some_iff.1 h with h | ⟨-, h⟩
    · exact Shrinks.suffix h
    · exact Shrinks.suffix h

instance {p q : Scanner α} {c : Prop} [Decidable c] [Shrinks p] [Shrinks q] :
    Shrinks (if c then p else q) := by
  split <;> infer_instance

instance (c : Char) : Shrinks (char c) where
  suffix h := by
    rw [char_eq_some_iff.1 h]
    exact List.suffix_cons _ _

instance (w : List Char) : Shrinks (letters w) := by
  induction w with
  | nil => exact inferInstanceAs (Shrinks (pure ()))
  | cons c w ih => exact inferInstanceAs (Shrinks (do char c; letters w))

instance {p : Scanner α} [Shrinks p] : Shrinks (rewinding p) where
  suffix h := Shrinks.suffix ((rewinding_apply p _).symm.trans h)

instance (w : String) : Shrinks (word w) := inferInstanceAs (Shrinks (rewinding (letters _)))

instance (p : Char → Bool) : Shrinks (takeSome p) where
  suffix h := ⟨_, takeSome_append h⟩

instance : Shrinks blanks where
  suffix h := by
    cases h
    exact List.dropWhile_suffix _

instance (c : Char) : Shrinks (flag c) where
  suffix h := by
    rcases flag_eq_some_iff.1 h with ⟨-, rfl⟩ | ⟨-, rfl, -⟩
    · exact List.suffix_cons _ _
    · exact List.suffix_rfl

instance (p : Char → Bool) : Shrinks (notNext p) where
  suffix h := by
    rw [notNext, ofOption_apply] at h
    split at h
    · split at h
      · cases h
      · cases h; exact List.suffix_rfl
    · cases h; exact List.suffix_rfl

instance {p : Scanner α} {f : α → Except String β} [Shrinks p] : Shrinks (convert p f) where
  suffix h := by
    obtain ⟨a, ha, -⟩ := convert_eq_some_iff.1 h
    exact Shrinks.suffix ha

instance {p : Nat → Scanner α} [∀ n, Shrinks (p n)] : Shrinks (bounded p) where
  suffix h := Shrinks.suffix ((bounded_apply p _).symm.trans h)

instance {p : Scanner α} [Shrinks p] : Shrinks (attempt p) where
  suffix h := by
    rcases attempt_eq_some_iff.1 h with ⟨x, -, h⟩ | ⟨-, rfl, -⟩
    · exact Shrinks.suffix h
    · exact List.suffix_rfl

instance {p : Scanner α} [Shrinks p] : Shrinks (many p) where
  suffix {s _ _} h := by
    have hstep : ∀ t a u, t <:+ s → p t = some (a, u) → u <:+ s ∧ True :=
      fun _ _ _ ht hu => ⟨(Shrinks.suffix hu).trans ht, trivial⟩
    exact (many_keeps _ (fun _ => True) hstep List.suffix_rfl h).1

instance {item : Scanner α} {separator : Scanner Unit} [Shrinks item] [Shrinks separator] :
    Shrinks (sepBy item separator) := by
  unfold sepBy
  infer_instance

instance {opening closing : Scanner Unit} {body : Scanner α} [Shrinks opening] [Shrinks body]
    [Shrinks closing] : Shrinks (between opening body closing) := by
  unfold between
  infer_instance

/-! ## Scanners that agree on short texts -/

/-- Two scanners that do the same with every text shorter than `n`. -/
def SameBelow (n : Nat) (p q : Scanner α) : Prop := ∀ s, s.length < n → p.scan s = q.scan s

theorem SameBelow.refl (n : Nat) (p : Scanner α) : SameBelow n p p := fun _ _ => rfl

variable {n : Nat}

theorem SameBelow.apply {p q : Scanner α} (h : SameBelow n p q) {s : List Char}
    (hs : s.length < n) : p s = q s :=
  congrArg Except.toOption (h s hs)

theorem SameBelow.bind {p p' : Scanner α} [Shrinks p] {f f' : α → Scanner β}
    (hp : SameBelow n p p') (hf : ∀ a, SameBelow n (f a) (f' a)) :
    SameBelow n (p >>= f) (p' >>= f') := by
  intro s h
  cases hr : p.scan s with
  | error failure => rw [scan_bind_of_error _ hr, scan_bind_of_error _ (hp s h ▸ hr)]
  | ok found =>
    obtain ⟨a, r⟩ := found
    rw [scan_bind_of_ok _ hr, scan_bind_of_ok _ (hp s h ▸ hr)]
    exact hf a r (Nat.lt_of_le_of_lt (Shrinks.length_le (read?_eq_some_iff.2 hr)) h)

theorem SameBelow.rewinding {p q : Scanner α} (h : SameBelow n p q) :
    SameBelow n (rewinding p) (rewinding q) := by
  intro s hs
  rw [scan_rewinding, scan_rewinding, h s hs]

theorem SameBelow.orElse {p p' q q' : Scanner α} (hp : SameBelow n p p') (hq : SameBelow n q q') :
    SameBelow n (orElse p q) (orElse p' q') := by
  intro s hs
  rw [scan_orElse, scan_orElse, hp s hs, hq s hs]

/-- Alternatives are alike one by one. -/
theorem SameBelow.firstOf {ps qs : List (Scanner α)} (h : List.Forall₂ (SameBelow n) ps qs) :
    SameBelow n (firstOf ps) (firstOf qs) := by
  induction h with
  | nil => exact .refl n _
  | cons hp hps ih =>
    cases hps with
    | nil => exact hp.rewinding
    | cons => exact hp.orElse ih

theorem SameBelow.many {p q : Scanner α} (hp : SameBelow n p q) :
    SameBelow n (many p) (many q) := by
  intro s
  induction hn : s.length using Nat.strongRecOn generalizing s with
  | _ k ih =>
    intro h
    refine scan_many_eq ?_
    rw [many_eq, many_eq q, ← hp.apply (hn ▸ h)]
    cases p s with
    | none => rfl
    | some found =>
      obtain ⟨a, r⟩ := found
      by_cases hlt : r.length < s.length
      · have hrest := ih r.length (hn ▸ hlt) r rfl (by omega)
        simp only [if_pos hlt]
        rw [show Scanner.many p r = Scanner.many q r from congrArg Except.toOption hrest]
      · simp only [if_neg hlt]

theorem SameBelow.sepBy {p q : Scanner α} {separator : Scanner Unit} [Shrinks p]
    [Shrinks separator] (hp : SameBelow n p q) :
    SameBelow n (sepBy p separator) (sepBy q separator) :=
  hp.bind fun _ => (SameBelow.many ((SameBelow.refl n separator).bind fun _ => hp)).bind
    fun _ => SameBelow.refl n _

end Scanner

namespace Grammar

open Scanner Surface

variable {n : Nat}

instance {α : Type} {p : Scanner α} [Shrinks p] : Shrinks (parens p) := by
  unfold parens
  infer_instance

/-- What stands in parentheses is shorter than what they stand in. -/
theorem sameBelow_parens {α : Type} {p q : Scanner α} (h : SameBelow n p q) :
    SameBelow (n + 1) (parens p) (parens q) := by
  intro s hs
  by_cases hopen : ∃ t, s = '(' :: t
  · obtain ⟨t, rfl⟩ := hopen
    have hshort : (Text.trimStart t).length < n := by
      have := Shrinks.length_le (blanks_apply t)
      simp only [List.length_cons] at hs
      omega
    have hblanks : (do char '('; blanks : Scanner Unit).scan ('(' :: t) =
        .ok ((), Text.trimStart t) := by
      rw [← read?_eq_some_iff, bind_of_some _ (char_cons_self _ _), blanks_apply]
    unfold parens between
    rw [scan_bind_of_ok _ hblanks, scan_bind_of_ok _ hblanks]
    have hsame := h _ hshort
    cases hp : p.scan (Text.trimStart t) with
    | error failure => rw [scan_bind_of_error _ hp, scan_bind_of_error _ (hsame ▸ hp)]
    | ok found =>
      obtain ⟨a, r⟩ := found
      have hq : q.scan (Text.trimStart t) = .ok (a, r) := hsame ▸ hp
      rw [scan_bind_of_ok _ hp, scan_bind_of_ok _ hq]
  · obtain ⟨failure, hfail⟩ : ∃ failure, (char '(').scan s = .error failure := by
      rw [← read?_eq_none_iff]
      exact char_eq_none fun hhead => hopen (List.head?_eq_some_iff.1 hhead)
    unfold parens between
    rw [scan_bind_of_error _ (scan_bind_of_error _ hfail),
      scan_bind_of_error _ (scan_bind_of_error _ hfail)]

/-! ## The words of the language -/

instance : Shrinks quotedRest where
  suffix {s a r} h := by
    rw [quotedRest_apply] at h
    fun_induction splitQuoted? s generalizing a r with
    | case1 => cases h
    | case2 rest => cases h; exact List.suffix_cons _ _
    | case3 => cases h
    | case4 c rest ih =>
      obtain ⟨⟨cs, r'⟩, hr, heq⟩ := Option.map_eq_some_iff.1 h
      cases heq
      exact (ih hr).trans ((List.suffix_cons _ _).trans (List.suffix_cons _ _))
    | case5 c rest _ _ _ ih =>
      obtain ⟨⟨cs, r'⟩, hr, heq⟩ := Option.map_eq_some_iff.1 h
      cases heq
      exact (ih hr).trans (List.suffix_cons _ _)

instance : Shrinks name := by unfold name; infer_instance

instance : Shrinks functionName := by unfold functionName; infer_instance

instance : Shrinks variableName := by unfold variableName; infer_instance

instance : Shrinks floatNumeral := by unfold floatNumeral; infer_instance

instance : Shrinks intNumeral := by unfold intNumeral; infer_instance

instance : Shrinks quoted := by unfold quoted; infer_instance

instance : Shrinks unquoted := by unfold unquoted; infer_instance

instance : Shrinks pattern := by unfold pattern; infer_instance

instance : Shrinks comma := by unfold comma; infer_instance

instance (kind space name unit : Char → Bool) : Shrinks (Mri.segments kind space name unit) := by
  unfold Mri.segments
  infer_instance

instance : Shrinks publicName := by unfold publicName; infer_instance

instance : Shrinks metric := by
  unfold metric backQuoted quotedMri bareMri
  infer_instance

/-! ## Filters -/

instance : Shrinks tagKey := by unfold tagKey; infer_instance

instance : Shrinks tagValue := by
  unfold tagValue stringList
  infer_instance

instance : Shrinks condition := by unfold condition; infer_instance

instance (capital small : String) : Shrinks (keyword capital small) := by
  unfold keyword
  infer_instance

instance : Shrinks joint := by unfold joint; infer_instance

section

variable {nested nested' : Scanner TagFilter}

instance [Shrinks nested] : Shrinks (tagFactor nested) := by unfold tagFactor; infer_instance

instance [Shrinks nested] : Shrinks (tagTerm nested) := by unfold tagTerm; infer_instance

instance [Shrinks nested] : Shrinks (tagFilterOver nested) := by
  unfold tagFilterOver
  infer_instance

instance (depth : Nat) : Shrinks (tagFilterWithin depth) := by
  induction depth with
  | zero => exact inferInstanceAs (Shrinks fail)
  | succ depth ih => exact inferInstanceAs (Shrinks (tagFilterOver _))

instance : Shrinks tagFilter := inferInstanceAs (Shrinks (bounded _))

variable [Shrinks nested]

theorem sameBelow_tagFactor (h : SameBelow n nested nested') :
    SameBelow (n + 1) (tagFactor nested) (tagFactor nested') :=
  .firstOf (.cons (.refl _ _) (.cons ((sameBelow_parens h).bind fun _ => .refl _ _) .nil))

theorem sameBelow_tagTerm (h : SameBelow n nested nested') :
    SameBelow (n + 1) (tagTerm nested) (tagTerm nested') := by
  have hfactor := sameBelow_tagFactor h
  refine hfactor.bind fun _ => SameBelow.bind (SameBelow.many ?_) fun _ => SameBelow.refl _ _
  refine (SameBelow.refl _ blanks).bind fun _ => .firstOf (.cons ?_ (.cons hfactor .nil))
  exact (SameBelow.refl _ joint).bind fun _ => (SameBelow.refl _ blanks).bind fun _ => hfactor

theorem sameBelow_tagFilterOver (h : SameBelow n nested nested') :
    SameBelow (n + 1) (tagFilterOver nested) (tagFilterOver nested') := by
  have hterm := sameBelow_tagTerm h
  refine hterm.bind fun _ => SameBelow.bind (SameBelow.many ?_) fun _ => SameBelow.refl _ _
  exact (SameBelow.refl _ blanks).bind fun _ => (SameBelow.refl _ (keyword _ _)).bind fun _ =>
    (SameBelow.refl _ blanks).bind fun _ => hterm

end

theorem sameBelow_tagFilterWithin {d d' : Nat} (hd : n ≤ d) (hd' : n ≤ d') :
    SameBelow n (tagFilterWithin d) (tagFilterWithin d') := by
  induction n generalizing d d' with
  | zero => exact fun s h => absurd h (Nat.not_lt_zero _)
  | succ n ih =>
    obtain ⟨d, rfl⟩ : ∃ k, d = k + 1 := ⟨d - 1, by omega⟩
    obtain ⟨d', rfl⟩ : ∃ k, d' = k + 1 := ⟨d' - 1, by omega⟩
    exact sameBelow_tagFilterOver (ih (by omega) (by omega))

/-- **The depth of a filter is never used up.** -/
theorem tagFilter_eq : tagFilter = tagFilterOver tagFilter := by
  ext1
  funext s
  have hnested : SameBelow s.length (tagFilterWithin s.length) tagFilter := by
    intro t ht
    rw [tagFilter, scan_bounded]
    exact sameBelow_tagFilterWithin (n := t.length + 1) ht (Nat.le_refl _) t (Nat.lt_succ_self _)
  rw [tagFilter, scan_bounded, tagFilterWithin]
  exact sameBelow_tagFilterOver hnested s (Nat.lt_succ_self _)

/-! ## Expressions -/

instance : Shrinks braces := by unfold braces; infer_instance

instance : Shrinks optionalBraces := by unfold optionalBraces; infer_instance

instance : Shrinks groupBy := by unfold groupBy; infer_instance

instance : Shrinks param := by unfold param; infer_instance

instance : Shrinks curriedHead := by unfold curriedHead; infer_instance

instance : Shrinks selection := by unfold selection; infer_instance

instance (first second : Char × ArithmeticOp) : Shrinks (operator first second) := by
  unfold operator
  infer_instance

section

variable {nested nested' : Scanner Expression}

instance [Shrinks nested] : Shrinks (arguments nested) := by unfold arguments; infer_instance

instance [Shrinks nested] : Shrinks (call nested) := by unfold call; infer_instance

instance [Shrinks nested] : Shrinks (target nested) := by unfold target; infer_instance

instance [Shrinks nested] : Shrinks (coefficient nested) := by unfold coefficient; infer_instance

instance [Shrinks nested] : Shrinks (unary nested) := by unfold unary; infer_instance

instance [Shrinks nested] : Shrinks (term nested) := by unfold term; infer_instance

instance [Shrinks nested] : Shrinks (expressionOver nested) := by
  unfold expressionOver
  infer_instance

instance (depth : Nat) : Shrinks (expressionWithin depth) := by
  induction depth with
  | zero => exact inferInstanceAs (Shrinks fail)
  | succ depth ih => exact inferInstanceAs (Shrinks (expressionOver _))

instance : Shrinks expression := inferInstanceAs (Shrinks (bounded _))

variable [Shrinks nested]

theorem sameBelow_arguments (h : SameBelow n nested nested') :
    SameBelow (n + 1) (arguments nested) (arguments nested') :=
  sameBelow_parens (SameBelow.sepBy h)

theorem sameBelow_call (h : SameBelow n nested nested') :
    SameBelow (n + 1) (call nested) (call nested') := by
  have hargs := sameBelow_arguments h
  refine .firstOf (.cons (.refl _ _) (.cons ?_ (.cons (.refl _ _) (.cons ?_ .nil))))
  · exact (SameBelow.refl _ curriedHead).bind fun _ => hargs.bind fun _ => SameBelow.refl _ _
  · exact (SameBelow.refl _ functionName).bind fun _ => hargs.bind fun _ => SameBelow.refl _ _

theorem sameBelow_target (h : SameBelow n nested nested') :
    SameBelow (n + 1) (target nested) (target nested') := by
  refine .firstOf (.cons (.refl _ _) (.cons ?_ (.cons ?_ (.cons (.refl _ _) .nil))))
  · exact (sameBelow_parens h).bind fun _ => SameBelow.refl _ _
  · exact (sameBelow_call h).bind fun _ => SameBelow.refl _ _

theorem sameBelow_unary (h : SameBelow n nested nested') :
    SameBelow (n + 1) (unary nested) (unary nested') := by
  refine (SameBelow.refl _ (flag _)).bind fun _ => SameBelow.bind ?_ fun _ => SameBelow.refl _ _
  refine .firstOf (.cons (.refl _ _) (.cons (.refl _ _) (.cons (.refl _ _) (.cons ?_ .nil))))
  exact (sameBelow_target h).bind fun _ => SameBelow.refl _ _

theorem sameBelow_term (h : SameBelow n nested nested') :
    SameBelow (n + 1) (term nested) (term nested') := by
  have hunary := sameBelow_unary h
  refine hunary.bind fun _ => SameBelow.bind (SameBelow.many ?_) fun _ => SameBelow.refl _ _
  exact (SameBelow.refl _ (operator _ _)).bind fun _ => hunary.bind fun _ => SameBelow.refl _ _

theorem sameBelow_expressionOver (h : SameBelow n nested nested') :
    SameBelow (n + 1) (expressionOver nested) (expressionOver nested') := by
  have hterm := sameBelow_term h
  refine hterm.bind fun _ => SameBelow.bind (SameBelow.many ?_) fun _ => SameBelow.refl _ _
  exact (SameBelow.refl _ (operator _ _)).bind fun _ => hterm.bind fun _ => SameBelow.refl _ _

end

theorem sameBelow_expressionWithin {d d' : Nat} (hd : n ≤ d) (hd' : n ≤ d') :
    SameBelow n (expressionWithin d) (expressionWithin d') := by
  induction n generalizing d d' with
  | zero => exact fun s h => absurd h (Nat.not_lt_zero _)
  | succ n ih =>
    obtain ⟨d, rfl⟩ : ∃ k, d = k + 1 := ⟨d - 1, by omega⟩
    obtain ⟨d', rfl⟩ : ∃ k, d' = k + 1 := ⟨d' - 1, by omega⟩
    exact sameBelow_expressionOver (ih (by omega) (by omega))

/-- **The depth of an expression is never used up.** -/
theorem expression_eq : expression = expressionOver expression := by
  ext1
  funext s
  have hnested : SameBelow s.length (expressionWithin s.length) expression := by
    intro t ht
    rw [expression, scan_bounded]
    exact sameBelow_expressionWithin (n := t.length + 1) ht (Nat.le_refl _) t (Nat.lt_succ_self _)
  rw [expression, scan_bounded, expressionWithin]
  exact sameBelow_expressionOver hnested s (Nat.lt_succ_self _)

end Grammar

end MetricQuery
