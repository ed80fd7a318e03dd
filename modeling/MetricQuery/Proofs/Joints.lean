import MetricQuery.Proofs.Depth
import MetricQuery.Proofs.Words

/-!
# What stands between factors and terms

Behind a factor of a filter comes another one, with or without a joint in front of it, or else the
end of the term.  A key may be spelled like a joint: where a factor can be read, no joint with a factor
behind it can.

* `IsJoint`, `IsAlternation` : what may stand between two factors, and between two terms;
* `jointed_eq_none`          : a factor is never read as a joint and another factor;
* `furtherFactor_joint`      : a factor is read behind every joint;
* `furtherTerm_alternation`  : a term is read behind every `OR`.
-/

set_option autoImplicit false

namespace MetricQuery

open Grammar Scanner Surface

/-! ## Separators -/

/-- Blanks, and at least one of them. -/
structure IsGap (s : String) : Prop where
  ne_empty : s ≠ ""
  blank : Text.isAllBlank s = true

/-- What may stand between two factors: blanks alone, a comma, or `AND` with blanks around it. -/
inductive IsJoint : String → Prop
  | gap {s : String} (h : IsGap s) : IsJoint s
  | comma {s t : String} (hs : Text.isAllBlank s = true) (ht : Text.isAllBlank t = true) :
      IsJoint (s ++ "," ++ t)
  | word {s w t : String} (hs : IsGap s) (hw : w = "AND" ∨ w = "and") (ht : IsGap t) :
      IsJoint (s ++ w ++ t)

/-- What may stand between two terms: `OR` with blanks around it. -/
inductive IsAlternation : String → Prop
  | word {s w t : String} (hs : IsGap s) (hw : w = "OR" ∨ w = "or") (ht : IsGap t) :
      IsAlternation (s ++ w ++ t)

theorem IsGap.ne_nil {s : String} (h : IsGap s) : s.toList ≠ [] := by
  simpa using h.ne_empty

theorem IsJoint.ne_nil {j : String} (h : IsJoint j) : j.toList ≠ [] := by
  cases h with
  | gap h => exact h.ne_nil
  | comma hs ht => simp
  | word hs hw ht => simp [hs.ne_nil]

theorem IsAlternation.ne_nil {j : String} (h : IsAlternation j) : j.toList ≠ [] := by
  cases h with
  | word hs hw ht => simp [hs.ne_nil]

theorem isGap_space : IsGap " " := ⟨by decide, by decide⟩

namespace Grammar

/-! ## What factors start with -/

/-- A factor starts with an exclamation mark, with a parenthesis or with a name. -/
def StartsFactor (text : String) : Prop :=
  ∃ c w, text.toList = c :: w ∧ (c = '!' ∨ c = '(' ∨ isNameChar c = true)

/-- What factors start with is in none of the classes that names, parentheses and exclamation marks
are not in. -/
theorem StartsFactor.stops {text : String} (h : StartsFactor text) {p : Char → Bool}
    (hbang : p '!' = false) (hparen : p '(' = false)
    (hname : ∀ c, isNameChar c = true → p c = false) (r : List Char) :
    Stops p (text.toList ++ r) := by
  obtain ⟨c, w, hcw, rfl | rfl | hc⟩ := h <;> rw [hcw]
  · simpa using hbang
  · simpa using hparen
  · simpa using hname c hc

theorem StartsFactor.stops_isBlank {text : String} (h : StartsFactor text) (r : List Char) :
    Stops Text.isBlank (text.toList ++ r) :=
  h.stops (by decide) (by decide) (fun _ => isBlank_of_isNameChar) r

theorem StartsFactor.head?_ne_colon {text : String} (h : StartsFactor text) (r : List Char) :
    (text.toList ++ r).head? ≠ some ':' := by
  obtain ⟨c, w, hcw, rfl | rfl | hc⟩ := h <;> rw [hcw]
  · simp
  · simp
  · simpa using ne_of_class hc (by decide)

theorem tagKey_eq_none {s : List Char} (hname : Stops isNameChar s)
    (hdollar : s.head? ≠ some '$') : tagKey s = none := by
  unfold tagKey variableName
  rw [firstOf_of_none _ (bind_of_none _ (bind_of_none _ (char_eq_none hdollar))),
    firstOf_of_none _ (bind_of_none _ (name_eq_none hname)), firstOf_nil]

/-- A condition starts with an exclamation mark, a name or a variable. -/
theorem condition_eq_none {s : List Char} (hbang : s.head? ≠ some '!') (hname : Stops isNameChar s)
    (hdollar : s.head? ≠ some '$') : condition s = none := by
  unfold condition
  rw [bind_of_some _ (flag_of_ne hbang), bind_of_none _ (tagKey_eq_none hname hdollar)]

theorem head?_name_ne {n : String} {c : Char} (hn : isName n.toList = true)
    (hc : isNameChar c = false) (s : List Char) : (n.toList ++ s).head? ≠ some c := by
  obtain ⟨hne, hall⟩ := Bool.and_eq_true_iff.1 hn
  obtain ⟨x, w, hxw⟩ := List.exists_cons_of_ne_nil (l := n.toList) (by simpa using hne)
  have hx := List.all_eq_true.1 hall x (by rw [hxw]; simp)
  rw [hxw]
  simpa using ne_of_class hx hc

theorem tagKey_name {n : String} (hn : isName n.toList = true) {r : List Char}
    (hr : Stops isNameChar r) : tagKey (n.toList ++ r) = some (.name n, r) := by
  unfold tagKey variableName
  rw [firstOf_of_none _ (bind_of_none _ (bind_of_none _
    (char_eq_none (head?_name_ne hn (by decide) r))))]
  refine firstOf_of_some _ ?_
  rw [bind_of_some _ (name_append hn hr), pure_apply]

theorem StartsFactor.append {text : String} (h : StartsFactor text) (more : String) :
    StartsFactor (text ++ more) := by
  obtain ⟨c, w, hcw, hc⟩ := h
  exact ⟨c, w ++ more.toList, by rw [String.toList_append, hcw, List.cons_append], hc⟩

/-- What may stand behind the factors of a filter: a parenthesis or a brace that closes it. -/
def ClosesFilter (r : List Char) : Prop := r.head? = some ')' ∨ r.head? = some '\x7d'

theorem ClosesFilter.stops {r : List Char} (h : ClosesFilter r) {p : Char → Bool}
    (hparen : p ')' = false) (hbrace : p '\x7d' = false) : Stops p r :=
  h.elim (fun h => stops_of_head? h hparen) fun h => stops_of_head? h hbrace

theorem ClosesFilter.head?_ne {r : List Char} (h : ClosesFilter r) {c : Char} (hparen : c ≠ ')')
    (hbrace : c ≠ '\x7d') : r.head? ≠ some c := by
  rcases h with h | h <;> rw [h] <;> simpa using Ne.symm ‹_›

section

variable {nested : Scanner TagFilter} {s : List Char}

theorem tagFactor_eq_none (hcondition : condition s = none)
    (hparen : s.head? ≠ some '(') : tagFactor nested s = none := by
  unfold tagFactor
  rw [firstOf_of_none _ hcondition, firstOf_of_none _ (bind_of_none _ (parens_eq_none hparen)),
    firstOf_nil]

/-- A name that no colon follows is no key. -/
theorem tagFactor_name {w : String} (hw : isName w.toList = true)
    (hs : Stops isNameChar s) (hcolon : (Text.trimStart s).head? ≠ some ':') :
    tagFactor nested (w.toList ++ s) = none := by
  refine tagFactor_eq_none ?_ (head?_name_ne hw (by decide) _)
  unfold condition
  rw [bind_of_some _ (flag_of_ne (head?_name_ne hw (by decide) _)),
    bind_of_some _ (tagKey_name hw hs), bind_of_some _ (blanks_apply _),
    bind_of_none _ (char_eq_none hcolon)]

/-- No factor starts with a colon. -/
theorem tagFactor_colon (h : s.head? = some ':') : tagFactor nested s = none := by
  have hne : ∀ c, c ≠ ':' → s.head? ≠ some c := fun c hc => by
    rw [h]
    simpa using hc.symm
  exact tagFactor_eq_none (condition_eq_none (hne _ (by decide)) (stops_of_head? h (by decide))
    (hne _ (by decide))) (hne _ (by decide))

end

/-! ## Keywords -/

theorem notNext_eq_some {p : Char → Bool} {s r : List Char} {u : Unit}
    (h : notNext p s = some (u, r)) : r = s ∧ Stops p s := by
  cases s with
  | nil =>
    cases h
    exact ⟨rfl, stops_nil p⟩
  | cons c s =>
    rw [notNext, ofOption_apply] at h
    dsimp only at h
    split at h
    · cases h
    · cases h
      exact ⟨rfl, stops_cons.2 (by simpa using ‹¬ p c = true›)⟩

theorem notNext_of_stops {p : Char → Bool} {s : List Char} (h : Stops p s) :
    notNext p s = some ((), s) := by
  cases s with
  | nil => rfl
  | cons c s => simp [notNext, stops_cons.1 h]

theorem letters_eq_some {w s r : List Char} {u : Unit} (h : letters w s = some (u, r)) :
    s = w ++ r := by
  induction w generalizing s with
  | nil =>
    cases h
    rfl
  | cons c w ih =>
    obtain ⟨_, t, hc, h⟩ := bind_eq_some_iff.1 h
    rw [char_eq_some_iff.1 hc, ih h, List.cons_append]

theorem word_eq_some {w : String} {s r : List Char} {u : Unit} (h : word w s = some (u, r)) :
    s = w.toList ++ r :=
  letters_eq_some ((word_apply w s).symm.trans h)

theorem keyword_eq_none (capital small : String) {c d : Char} {cs ds s : List Char}
    (hcapital : capital.toList = c :: cs) (hsmall : small.toList = d :: ds)
    (hc : s.head? ≠ some c) (hd : s.head? ≠ some d) : keyword capital small s = none := by
  unfold keyword
  refine bind_of_none _ ?_
  rw [firstOf_of_none _ (word_eq_none hcapital hc), firstOf_of_none _ (word_eq_none hsmall hd),
    firstOf_nil]

/-- A keyword is one of its spellings, with no name going on behind it. -/
theorem keyword_eq_some {capital small : String} {s r : List Char} {u : Unit}
    (h : keyword capital small s = some (u, r)) :
    ∃ w, (w = capital ∨ w = small) ∧ s = w.toList ++ r ∧ Stops isNameChar r := by
  obtain ⟨_, t, hword, h⟩ := bind_eq_some_iff.1 h
  obtain ⟨rfl, hstop⟩ := notNext_eq_some h
  rcases firstOf_cons_eq_some_iff.1 hword with hword | ⟨-, hword⟩
  · exact ⟨capital, .inl rfl, word_eq_some hword, hstop⟩
  · rw [firstOf_singleton] at hword
    exact ⟨small, .inr rfl, word_eq_some hword, hstop⟩

/-- Both spellings of a keyword are read where they start with different letters. -/
theorem keyword_append {capital small w : String} {c d : Char} {cs ds s : List Char}
    (hcapital : capital.toList = c :: cs) (hsmall : small.toList = d :: ds) (hne : d ≠ c)
    (hw : w = capital ∨ w = small) (hs : Stops isNameChar s) :
    keyword capital small (w.toList ++ s) = some ((), s) := by
  have hword : firstOf [word capital, word small] (w.toList ++ s) = some ((), s) := by
    rcases hw with rfl | rfl
    · exact firstOf_of_some _ (word_append w s)
    · rw [firstOf_of_none _ (word_eq_none hcapital (by rw [hsmall]; simpa using hne)),
        firstOf_singleton, word_append]
  unfold keyword
  rw [bind_of_some _ hword, notNext_of_stops hs]

theorem joint_eq_none {s : List Char} (hcomma : s.head? ≠ some ',') (hcapital : s.head? ≠ some 'A')
    (hsmall : s.head? ≠ some 'a') : joint s = none := by
  unfold joint
  rw [firstOf_of_none _ (char_eq_none hcomma),
    firstOf_of_none _ (keyword_eq_none "AND" "and" rfl rfl hcapital hsmall),
    firstOf_nil]

/-! ## Factors behind factors -/

/-- What comes behind a factor of a term. -/
def furtherFactor (nested : Scanner TagFilter) : Scanner TagFactor := do
  blanks
  firstOf
    [do joint; blanks; tagFactor nested,
     tagFactor nested]

theorem trimStart_append {b : String} {s : List Char} (hb : Text.isAllBlank b = true)
    (hs : Stops Text.isBlank s) : Text.trimStart (b.toList ++ s) = s :=
  dropWhile_append_of_stops (List.all_eq_true.1 hb) hs

/-- No name goes on over blanks. -/
theorem stops_isNameChar_gap {b : String} (hb : IsGap b) (s : List Char) :
    Stops isNameChar (b.toList ++ s) := by
  refine stops_append hb.ne_nil (List.all_eq_true.1 hb.blank) (fun c hc => ?_) s
  rw [← Bool.not_eq_true]
  intro hname
  rw [isBlank_of_isNameChar hname] at hc
  cases hc

section

variable {nested : Scanner TagFilter} {a : TagFactor} {s r : List Char}

/-- No factor comes behind the last one. -/
theorem furtherFactor_closes (h : ClosesFilter r) :
    furtherFactor nested r = none := by
  unfold furtherFactor
  rw [bind_of_some _ (blanks_apply _), trimStart_of_stops (h.stops (by decide) (by decide)),
    firstOf_of_none _ (bind_of_none _ (joint_eq_none (h.head?_ne (by decide) (by decide))
      (h.head?_ne (by decide) (by decide)) (h.head?_ne (by decide) (by decide)))),
    firstOf_of_none _ (tagFactor_eq_none (condition_eq_none (h.head?_ne (by decide) (by decide))
      (h.stops (by decide) (by decide)) (h.head?_ne (by decide) (by decide)))
      (h.head?_ne (by decide) (by decide))), firstOf_nil]

/-- **Where a factor is read, no joint with a factor behind it can be.**  A key may be spelled like a
joint, but then a colon stands behind it, which no factor starts with. -/
theorem jointed_eq_none (h : tagFactor nested s = some (a, r)) :
    (do joint; blanks; tagFactor nested : Scanner TagFactor) s = none := by
  cases hjoint : joint s with
  | none => exact bind_of_none _ hjoint
  | some found =>
    obtain ⟨_, u⟩ := found
    rw [bind_of_some _ hjoint, bind_of_some _ (blanks_apply u)]
    rcases firstOf_cons_eq_some_iff.1 hjoint with hcomma | ⟨-, hword⟩
    · -- no factor starts with a comma
      rw [char_eq_some_iff.1 hcomma, tagFactor_eq_none (condition_eq_none (by simp)
        (by simp; decide) (by simp)) (by simp)] at h
      cases h
    · rw [firstOf_singleton] at hword
      obtain ⟨w, hw, rfl, hstop⟩ := keyword_eq_some hword
      have hname : isName w.toList = true := by rcases hw with rfl | rfl <;> decide
      refine tagFactor_colon ?_
      by_contra hcolon
      rw [tagFactor_name hname hstop hcolon] at h
      cases h

/-- Behind a joint that is read no other factor is looked for. -/
theorem furtherFactor_of_joint {t u : List Char} {b : String} (ht : Text.trimStart t = u)
    (hjoint : joint u = some ((), b.toList ++ s)) (hb : Text.isAllBlank b = true)
    (hs : Stops Text.isBlank s) (hu : tagFactor nested u = none) :
    furtherFactor nested t = tagFactor nested s := by
  have hjointed : (do joint; blanks; tagFactor nested : Scanner TagFactor) u =
      tagFactor nested s := by
    rw [bind_of_some _ hjoint, bind_of_some _ (blanks_apply _), trimStart_append hb hs]
  unfold furtherFactor
  rw [bind_of_some _ (blanks_apply t), ht]
  cases hread : tagFactor nested s with
  | none =>
    rw [hread] at hjointed
    rw [firstOf_of_none _ hjointed, firstOf_singleton, hu]
  | some found =>
    rw [hread] at hjointed
    exact firstOf_of_some _ hjointed

/-- Behind `AND` with blanks around it, what comes is a factor or nothing. -/
theorem furtherFactor_word {b w b' : String} (hb : IsGap b) (hw : w = "AND" ∨ w = "and")
    (hb' : IsGap b') (hs : Stops Text.isBlank s) (hcolon : s.head? ≠ some ':') :
    furtherFactor nested ((b ++ w ++ b').toList ++ s) = tagFactor nested s := by
  have hletter : Stops Text.isBlank (w.toList ++ (b'.toList ++ s)) ∧
      (w.toList ++ (b'.toList ++ s)).head? ≠ some ',' := by
    rcases hw with rfl | rfl <;> exact ⟨stops_cons.2 (by decide), by simp⟩
  have hname : isName w.toList = true := by rcases hw with rfl | rfl <;> decide
  have hstop := stops_isNameChar_gap hb' s
  rw [String.toList_append, String.toList_append, List.append_assoc, List.append_assoc]
  refine furtherFactor_of_joint (trimStart_append hb.blank hletter.1) ?_ hb'.blank hs
    (tagFactor_name hname hstop (by rwa [trimStart_append hb'.blank hs]))
  unfold joint
  rw [firstOf_of_none _ (char_eq_none hletter.2), firstOf_singleton,
    keyword_append rfl rfl (by decide) hw hstop]

/-- A factor is read behind every joint. -/
theorem furtherFactor_joint {j : String} (hj : IsJoint j) (hs : Stops Text.isBlank s)
    (h : tagFactor nested s = some (a, r)) : furtherFactor nested (j.toList ++ s) = some (a, r) := by
  cases hj with
  | gap hgap =>
    unfold furtherFactor
    rw [bind_of_some _ (blanks_apply _), trimStart_append hgap.blank hs,
      firstOf_of_none _ (jointed_eq_none h), firstOf_of_some _ h]
  | @comma b b' hb hb' =>
    have hfactor : tagFactor nested (',' :: (b'.toList ++ s)) = none :=
      tagFactor_eq_none (condition_eq_none (by simp) (by simp; decide) (by simp)) (by simp)
    rw [String.toList_append, String.toList_append, List.append_assoc, List.append_assoc]
    exact (furtherFactor_of_joint (trimStart_append hb (stops_cons.2 (by decide)))
      (firstOf_of_some _ (char_cons_self ',' _)) hb' hs hfactor).trans h
  | word hb hw hb' =>
    refine (furtherFactor_word hb hw hb' hs fun hcolon => ?_).trans h
    rw [tagFactor_colon hcolon] at h
    cases h

/-- A term stops in front of `OR` with no colon behind it. -/
theorem furtherFactor_alternation {j : String} (hj : IsAlternation j) (hs : Stops Text.isBlank s)
    (hcolon : s.head? ≠ some ':') : furtherFactor nested (j.toList ++ s) = none := by
  cases hj with
  | @word b w b' hb hw hb' =>
    have hletter : Stops Text.isBlank (w.toList ++ (b'.toList ++ s)) ∧
        ∀ c ∈ [',', 'A', 'a'], (w.toList ++ (b'.toList ++ s)).head? ≠ some c := by
      rcases hw with rfl | rfl <;> exact ⟨stops_cons.2 (by decide), by simp⟩
    have hname : isName w.toList = true := by rcases hw with rfl | rfl <;> decide
    have hfactor : tagFactor nested (w.toList ++ (b'.toList ++ s)) = none :=
      tagFactor_name hname (stops_isNameChar_gap hb' s) (by rwa [trimStart_append hb'.blank hs])
    rw [String.toList_append, String.toList_append, List.append_assoc, List.append_assoc]
    unfold furtherFactor
    rw [bind_of_some _ (blanks_apply _), trimStart_append hb.blank hletter.1,
      firstOf_of_none _ (bind_of_none _ (joint_eq_none (hletter.2 _ (by simp))
        (hletter.2 _ (by simp)) (hletter.2 _ (by simp)))),
      firstOf_singleton, hfactor]

end

/-! ## Terms behind terms -/

/-- What comes behind a term of a filter. -/
def furtherTerm (nested : Scanner TagFilter) : Scanner TagTerm := do
  blanks
  keyword "OR" "or"
  blanks
  tagTerm nested

theorem tagFilterOver_eq (nested : Scanner TagFilter) :
    tagFilterOver nested = (do
      let first ← tagTerm nested
      let rest ← many (furtherTerm nested)
      pure (first :: rest)) := rfl

/-- No term comes behind the last one. -/
theorem furtherTerm_closes {nested : Scanner TagFilter} {r : List Char} (h : ClosesFilter r) :
    furtherTerm nested r = none := by
  unfold furtherTerm
  rw [bind_of_some _ (blanks_apply _), trimStart_of_stops (h.stops (by decide) (by decide)),
    bind_of_none _ (keyword_eq_none "OR" "or" rfl rfl
      (h.head?_ne (by decide) (by decide)) (h.head?_ne (by decide) (by decide)))]

section

variable {nested : Scanner TagFilter} {s r : List Char}

theorem tagTerm_eq : tagTerm nested = (do
    let first ← tagFactor nested
    let rest ← many (furtherFactor nested)
    pure (first :: rest)) := rfl

/-- Behind `OR` with blanks around it, what comes is a term or nothing. -/
theorem furtherTerm_alternation {j : String} (hj : IsAlternation j) (hs : Stops Text.isBlank s) :
    furtherTerm nested (j.toList ++ s) = tagTerm nested s := by
  cases hj with
  | @word b w b' hb hw hb' =>
    have hletter : Stops Text.isBlank (w.toList ++ (b'.toList ++ s)) := by
      rcases hw with rfl | rfl <;> exact stops_cons.2 (by decide)
    rw [String.toList_append, String.toList_append, List.append_assoc, List.append_assoc]
    unfold furtherTerm
    rw [bind_of_some _ (blanks_apply _), trimStart_append hb.blank hletter,
      bind_of_some _ (keyword_append rfl rfl (by decide) hw (stops_isNameChar_gap hb' s)),
      bind_of_some _ (blanks_apply _), trimStart_append hb'.blank hs]

/-! ## Single spaces -/

theorem isAlternation_or : IsAlternation " OR " :=
  .word (s := " ") (t := " ") isGap_space (.inl rfl) isGap_space

variable {t : String}

theorem furtherFactor_and (h : StartsFactor t) (r : List Char) :
    furtherFactor nested (" AND ".toList ++ (t.toList ++ r)) = tagFactor nested (t.toList ++ r) := by
  rw [show " AND " = " " ++ "AND" ++ " " by decide]
  exact furtherFactor_word isGap_space (.inl rfl) isGap_space (h.stops_isBlank r)
    (h.head?_ne_colon r)

/-- A term stops in front of `OR`. -/
theorem furtherFactor_or (h : StartsFactor t) (r : List Char) :
    furtherFactor nested (" OR ".toList ++ (t.toList ++ r)) = none :=
  furtherFactor_alternation isAlternation_or (h.stops_isBlank r) (h.head?_ne_colon r)

theorem furtherTerm_or (h : StartsFactor t) (r : List Char) :
    furtherTerm nested (" OR ".toList ++ (t.toList ++ r)) = tagTerm nested (t.toList ++ r) :=
  furtherTerm_alternation isAlternation_or (h.stops_isBlank r)

end

end Grammar

end MetricQuery
