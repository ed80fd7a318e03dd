import MetricQuery.Parse
import MetricQuery.Proofs.NumberText
import MetricQuery.Proofs.Outcome
import MetricQuery.Proofs.Identifiers

/-!
# What scanners yield

Properties of everything that the scanners of words, of filters and of metrics read, and of the
normal nodes that such surface trees give, if they give any.

* `Yields`                      : everything that a scanner reads has a property;
* `exists_pattern_of_quoted`    : a quoted text that says a pattern can be read as a pattern;
* `yields_tagFilter`            : filters that are read give normal filters;
* `yields_metric`, `yields_param` : metrics and parameters have their form.
-/

set_option autoImplicit false

namespace MetricQuery

namespace Scanner

variable {α β : Type} {good : α → Prop} {good' : β → Prop}

/-! ## Properties of everything that is read -/

/-- Everything that is read has the property. -/
def Yields (p : Scanner α) (good : α → Prop) : Prop := ∀ s a r, p s = some (a, r) → good a

theorem yields_true (p : Scanner α) : Yields p fun _ => True := fun _ _ _ _ => trivial

theorem Yields.imp {p : Scanner α} {good good' : α → Prop} (hp : Yields p good)
    (h : ∀ a, good a → good' a) : Yields p good' :=
  fun s a r hs => h a (hp s a r hs)

theorem yields_pure {a : α} (h : good a) : Yields (pure a) good := by
  intro s b r hs
  cases hs
  exact h

theorem Yields.bind {p : Scanner α} {f : α → Scanner β} (hp : Yields p good)
    (hf : ∀ a, good a → Yields (f a) good') : Yields (p >>= f) good' := by
  intro s b t h
  obtain ⟨a, r, ha, hb⟩ := bind_eq_some_iff.1 h
  exact hf a (hp s a r ha) r b t hb

/-- The property is one of what comes last. -/
theorem yields_bind {p : Scanner α} {f : α → Scanner β} (hf : ∀ a, Yields (f a) good') :
    Yields (p >>= f) good' :=
  (yields_true p).bind fun a _ => hf a

theorem yields_firstOf_nil : Yields (firstOf ([] : List (Scanner α))) good := by
  intro s a r h
  cases h

theorem Yields.firstOf_cons {p : Scanner α} {ps : List (Scanner α)} (hp : Yields p good)
    (hps : Yields (firstOf ps) good) : Yields (firstOf (p :: ps)) good := by
  intro s a r h
  rcases firstOf_cons_eq_some_iff.1 h with h | ⟨-, h⟩
  · exact hp s a r h
  · exact hps s a r h

theorem Yields.attempt {p : Scanner α} (hp : Yields p good) :
    Yields (attempt p) fun found => ∀ a, found = some a → good a := by
  rintro s found r h a rfl
  rcases attempt_eq_some_iff.1 h with ⟨x, hx, h⟩ | ⟨hx, -, -⟩
  · cases hx
    exact hp s a r h
  · cases hx

theorem Yields.many {p : Scanner α} (hp : Yields p good) :
    Yields (many p) fun as => ∀ a ∈ as, good a := by
  intro s as r h
  have hstep : ∀ t a u, True → p t = some (a, u) → True ∧ good a :=
    fun t a u _ hu => ⟨trivial, hp t a u hu⟩
  exact (many_keeps (fun _ => True) good hstep trivial h).2

/-- A first item and more of them behind it. -/
theorem yields_cons {p step : Scanner α} (hp : Yields p good) (hstep : Yields step good) :
    Yields (do
      let first ← p
      let rest ← many step
      pure (first :: rest)) fun as => as ≠ [] ∧ ∀ a ∈ as, good a := by
  refine hp.bind fun first hfirst => hstep.many.bind fun rest hrest => yields_pure ⟨by simp, ?_⟩
  intro a ha
  rcases List.mem_cons.1 ha with rfl | ha
  · exact hfirst
  · exact hrest a ha

theorem Yields.sepBy {item : Scanner α} {separator : Scanner Unit} (hp : Yields item good) :
    Yields (sepBy item separator) fun as => as ≠ [] ∧ ∀ a ∈ as, good a :=
  yields_cons hp (yields_bind fun _ => hp)

theorem Yields.between {opening closing : Scanner Unit} {body : Scanner α}
    (hp : Yields body good) : Yields (between opening body closing) good :=
  yields_bind fun _ => hp.bind fun _ ha => yields_bind fun _ => yields_pure ha

theorem Yields.parens {p : Scanner α} (hp : Yields p good) : Yields (Grammar.parens p) good :=
  hp.between

theorem yields_takeSome (p : Char → Bool) :
    Yields (takeSome p) fun w => w ≠ [] ∧ ∀ c ∈ w, p c = true := by
  intro s w r h
  obtain ⟨-, hne, hw, -⟩ := takeSome_eq_some_iff.1 h
  exact ⟨hne, hw⟩

end Scanner

namespace Grammar

open Scanner Surface

/-! ## Words -/

theorem yields_name : Yields name fun n => isName n.toList = true := by
  refine (yields_takeSome isNameChar).bind fun cs hcs => yields_pure ?_
  simpa [isName] using hcs

theorem yields_pattern : Yields pattern fun p => isPrefixPattern p.toList = true := by
  refine (yields_takeSome isUnquoted).bind fun cs hcs => yields_bind fun _ => yields_pure ?_
  rw [String.toList_ofList]
  exact isPrefixPattern_iff.2 ⟨cs, rfl, hcs.1, hcs.2⟩

/-- A text without quotes does not end in a star. -/
theorem yields_unquoted : Yields unquoted fun s => isPrefixPattern s.toList = false := by
  refine (yields_takeSome isUnquoted).bind fun cs hcs => yields_pure ?_
  rw [String.toList_ofList, ← Bool.not_eq_true, isPrefixPattern_iff]
  rintro ⟨stem, rfl, -⟩
  exact absurd (hcs.2 '*' (by simp)) (by decide)

/-- Only a closing quote says the empty text. -/
theorem eq_of_splitQuoted?_nil {s r : List Char} (h : splitQuoted? s = some ([], r)) :
    s = '"' :: r := by
  unfold splitQuoted? at h
  split at h
  · cases h
  · cases h; rfl
  · cases h
  · obtain ⟨_, -, heq⟩ := Option.map_eq_some_iff.1 h
    have := congrArg Prod.fst heq
    dsimp only at this
    split at this <;> cases this
  · obtain ⟨_, -, heq⟩ := Option.map_eq_some_iff.1 h
    cases heq

/-- In `s` stands a text without quotes, then a star and a quote with `r` behind them.  The text may
be empty only if `stem` is. -/
def IsStarred (stem s r : List Char) : Prop :=
  ∃ raw, s = raw ++ '*' :: '"' :: r ∧ (∀ c ∈ raw, isUnquoted c = true) ∧ (stem ≠ [] → raw ≠ [])

theorem isStarred_nil (r : List Char) : IsStarred [] ('*' :: '"' :: r) r :=
  ⟨[], rfl, by simp, fun h => absurd rfl h⟩

theorem IsStarred.cons {c : Char} {stem s r : List Char} (h : IsStarred stem s r)
    (hc : isUnquoted c = true) (stem' : List Char) : IsStarred stem' (c :: s) r := by
  obtain ⟨raw, rfl, hraw, -⟩ := h
  exact ⟨c :: raw, rfl, List.forall_mem_cons.2 ⟨hc, hraw⟩, fun _ => List.cons_ne_nil _ _⟩

/-- A quoted text that says a text without quotes and a star is written with such a text.  It may
be a longer one, since a backslash may stand for two of them. -/
theorem isStarred_of_splitQuoted? {s stem r : List Char} (hall : ∀ c ∈ stem, isUnquoted c = true)
    (h : splitQuoted? s = some (stem ++ ['*'], r)) : IsStarred stem s r := by
  fun_induction splitQuoted? s generalizing stem r with
  | case1 => cases h
  | case2 rest => simp at h
  | case3 => cases h
  | case4 c rest ih =>
    obtain ⟨⟨cs, r'⟩, hr, heq⟩ := Option.map_eq_some_iff.1 h
    dsimp only at heq
    split at heq
    · -- an escaped quote or backslash
      rename_i hc
      obtain ⟨htext, rfl⟩ := Prod.mk.inj heq
      cases stem with
      | nil =>
        obtain ⟨rfl, -⟩ := List.cons.inj htext
        exact absurd hc (by decide)
      | cons x stem =>
        obtain ⟨rfl, rfl⟩ := List.cons.inj htext
        obtain ⟨hunquoted, hstem⟩ := List.forall_mem_cons.1 hall
        have hslash : c = '\\' := hc.resolve_left fun e => absurd hunquoted (by subst e; decide)
        subst hslash
        exact ((ih hstem hr).cons hunquoted []).cons hunquoted _
    · -- a backslash that stands for itself
      obtain ⟨htext, rfl⟩ := Prod.mk.inj heq
      cases stem with
      | nil => cases htext
      | cons x stem =>
        obtain ⟨rfl, hbehind⟩ := List.cons.inj htext
        obtain ⟨hslash, hstem⟩ := List.forall_mem_cons.1 hall
        cases stem with
        | nil =>
          obtain ⟨rfl, rfl⟩ := List.cons.inj hbehind
          rw [eq_of_splitQuoted?_nil hr]
          exact (isStarred_nil _).cons hslash _
        | cons y stem =>
          obtain ⟨rfl, rfl⟩ := List.cons.inj hbehind
          obtain ⟨hc, hstem⟩ := List.forall_mem_cons.1 hstem
          exact ((ih hstem hr).cons hc []).cons hslash _
  | case5 c rest _ _ _ ih =>
    obtain ⟨⟨cs, r'⟩, hr, heq⟩ := Option.map_eq_some_iff.1 h
    obtain ⟨htext, rfl⟩ := Prod.mk.inj heq
    cases stem with
    | nil =>
      obtain ⟨rfl, rfl⟩ := List.cons.inj htext
      rw [eq_of_splitQuoted?_nil hr]
      exact isStarred_nil _
    | cons x stem =>
      obtain ⟨rfl, rfl⟩ := List.cons.inj htext
      obtain ⟨hc, hstem⟩ := List.forall_mem_cons.1 hall
      exact (ih hstem hr).cons hc _

theorem quoted_eq_some {s r : List Char} {v : String} (h : quoted s = some (v, r)) :
    ∃ t cs, s = '"' :: t ∧ splitQuoted? t = some (cs, r) ∧ v = String.ofList cs := by
  obtain ⟨_, t, hquote, h⟩ := bind_eq_some_iff.1 h
  obtain ⟨cs, r', hcs, h⟩ := bind_eq_some_iff.1 h
  cases h
  exact ⟨t, cs, char_eq_some_iff.1 hquote, (quotedRest_apply _).symm.trans hcs, rfl⟩

/-- **A quoted text that says a pattern is the pattern between quotes.**  It need not be the same
pattern, but there is one. -/
theorem exists_pattern_of_quoted {s r : List Char} {v : String} (h : quoted s = some (v, r))
    (hv : isPrefixPattern v.toList = true) :
    ∃ p, between (char '"') pattern (char '"') s = some (p, r) := by
  obtain ⟨t, cs, rfl, hcs, rfl⟩ := quoted_eq_some h
  rw [String.toList_ofList, isPrefixPattern_iff] at hv
  obtain ⟨stem, rfl, hne, hall⟩ := hv
  obtain ⟨raw, rfl, hraw, hrawne⟩ := isStarred_of_splitQuoted? hall hcs
  have hrun : takeSome isUnquoted (raw ++ '*' :: '"' :: r) = some (raw, '*' :: '"' :: r) :=
    takeSome_of_stops (hrawne hne) hraw (by simp; decide)
  have hpattern : pattern (raw ++ '*' :: '"' :: r) =
      some (String.ofList (raw ++ ['*']), '"' :: r) := by
    unfold pattern
    rw [bind_of_some _ hrun, bind_of_some _ (char_cons_self _ _), pure_apply]
  refine ⟨String.ofList (raw ++ ['*']), ?_⟩
  unfold between
  rw [bind_of_some _ (char_cons_self _ _), bind_of_some _ hpattern,
    bind_of_some _ (char_cons_self _ _), pure_apply]

end Grammar

namespace Surface

open Grammar Scanner Outcome

/-! ## What surface trees give -/

/-- If there is an outcome at all, it has the property. -/
def Gives {α : Type} (x : Except QueryError α) (good : α → Prop) : Prop :=
  ∀ a, x = .ok a → good a

section

variable {α β : Type} {good : α → Prop} {good' : β → Prop}

theorem gives_error (e : QueryError) : Gives (.error e) good := fun _ h => nomatch h

theorem gives_ok {a : α} (h : good a) : Gives (.ok a) good := by
  intro b hb
  cases hb
  exact h

theorem Gives.bind {x : Except QueryError α} {f : α → Except QueryError β} (hx : Gives x good)
    (hf : ∀ a, good a → Gives (f a) good') : Gives (x >>= f) good' := by
  intro b hb
  obtain ⟨a, ha, hb⟩ := bind_eq_ok.1 hb
  exact hf a (hx a ha) b hb

/-- Each member of a list gives a member of the result. -/
theorem gives_mapM {f : α → Except QueryError β} {as : List α} (hne : as ≠ [])
    (h : ∀ a ∈ as, Gives (f a) good') :
    Gives (as.mapM f) fun bs => bs ≠ [] ∧ ∀ b ∈ bs, good' b := by
  intro bs hbs
  refine ⟨?_, fun b hb => ?_⟩
  · rintro rfl
    cases mapM_eq_ok.1 hbs
    exact hne rfl
  · obtain ⟨a, ha, hab⟩ := exists_of_mem hbs hb
    exact h a ha b hab

end

theorem gives_column {name : String} (h : isName name.toList = true) :
    Gives (column name) Column.IsWritable := by
  intro c hc
  obtain ⟨u, hvalid, hc⟩ := bind_eq_ok.1 hc
  cases pure_eq_ok.1 hc
  exact ⟨h, QueryError.ofCheck_eq_ok.1 hvalid⟩

theorem gives_columns {names : List String} (hne : names ≠ [])
    (h : ∀ n ∈ names, isName n.toList = true) :
    Gives (columns names) fun cs => cs ≠ [] ∧ ∀ c ∈ cs, c.IsWritable := by
  rw [columns_eq]
  exact gives_mapM hne fun n hn => gives_column (h n hn)

/-- The left-hand side of a condition as it is read. -/
def TagKey.HasForm : TagKey → Prop
  | .name k => isName k.toList = true
  | .variable _ => True

/-- The right-hand side of a condition as it is read. -/
def TagValue.HasForm : TagValue → Prop
  | .wildcard p => isPrefixPattern p.toList = true
  | .string s => isPrefixPattern s.toList = false
  | .list items => items ≠ []
  | .variable _ => True

/-- A metric as it is read. -/
def MetricRef.HasForm : MetricRef → Prop
  | .mri m => backQuote ∉ m.toList ∧ ',' ∉ Mri.nameSegment m.toList
  | .publicName n => IsPublicName n.toList

theorem gives_metric {m : MetricRef} (h : m.HasForm) : Gives m.reduce Metric.IsNamed := by
  intro metric hm
  obtain ⟨u, hvalid, hm⟩ := bind_eq_ok.1 hm
  cases pure_eq_ok.1 hm
  cases m with
  | publicName n => exact .publicName h
  | mri m => exact .mri ⟨Metric.validate_ofMri.1 (QueryError.ofCheck_eq_ok.1 hvalid), h.1, h.2⟩

theorem gives_comparison {value : TagValue} (negated : Bool) (h : value.HasForm) :
    Gives (value.comparison negated) fun found => found.1.Takes found.2 := by
  cases value with
  | «variable» v => exact gives_error _
  | string s => cases negated <;> exact gives_ok (.exact (by simp) h)
  | list items => cases negated <;> exact gives_ok (.list (by simp) h)
  | wildcard p => cases negated <;> exact gives_ok (.pattern (by simp) h)

theorem gives_condition {key : TagKey} {value : TagValue} (negated : Bool) (hkey : key.HasForm)
    (hvalue : value.HasForm) : Gives (tagCondition negated key value) Condition.IsNormal := by
  cases key with
  | «variable» v => exact gives_error _
  | name k =>
    intro c hc
    obtain ⟨lhs, hlhs, hc⟩ := bind_eq_ok.1 hc
    obtain ⟨⟨op, rhs⟩, hrhs, hc⟩ := bind_eq_ok.1 hc
    cases pure_eq_ok.1 hc
    exact .mk (gives_column hkey lhs hlhs) (gives_comparison negated hvalue _ hrhs)

/-- Joined members are a normal filter. -/
theorem isNormal_joined {op : Connective} {members : List Filter} (hne : members ≠ [])
    (h : ∀ f ∈ members, f.IsNormal) : (joined op members).IsNormal := by
  match members, hne with
  | [f], _ => exact h f (by simp)
  | f :: g :: rest, _ => exact .group (by simp) h

/-- A factor that gives a normal filter, if it gives one. -/
def TagFactor.IsSound (factor : TagFactor) : Prop := Gives factor.reduce Filter.IsNormal

/-- A filter with a factor in each of its terms, all of them sound. -/
def TagFilter.IsSound (terms : TagFilter) : Prop :=
  terms ≠ [] ∧ ∀ term ∈ terms, term ≠ [] ∧ ∀ factor ∈ term, factor.IsSound

theorem gives_term {term : TagTerm} (h : term ≠ [] ∧ ∀ factor ∈ term, factor.IsSound) :
    Gives (TagTerm.reduce term) Filter.IsNormal := by
  have hfactors : Gives (reduceFactors term) fun fs => fs ≠ [] ∧ ∀ f ∈ fs, f.IsNormal := by
    rw [reduceFactors_eq]
    exact gives_mapM h.1 h.2
  exact hfactors.bind fun fs hfs => gives_ok (isNormal_joined hfs.1 hfs.2)

theorem gives_filter {terms : TagFilter} (h : TagFilter.IsSound terms) :
    Gives (TagFilter.reduce terms) Filter.IsNormal := by
  have hterms : Gives (reduceTerms terms) fun fs => fs ≠ [] ∧ ∀ f ∈ fs, f.IsNormal := by
    rw [reduceTerms_eq]
    exact gives_mapM h.1 fun term hterm => gives_term (h.2 term hterm)
  exact hterms.bind fun fs hfs => gives_ok (isNormal_joined hfs.1 hfs.2)

theorem isSound_nested {terms : TagFilter} (h : TagFilter.IsSound terms) :
    TagFactor.IsSound (.nested terms) := by
  intro f hf
  rw [TagFactor.reduce] at hf
  exact gives_filter h f hf

theorem isSound_condition {key : TagKey} {value : TagValue} (negated : Bool)
    (hkey : key.HasForm) (hvalue : value.HasForm) :
    TagFactor.IsSound (.condition negated key value) := by
  intro f hf
  rw [TagFactor.reduce] at hf
  obtain ⟨c, hc, hf⟩ := bind_eq_ok.1 hf
  cases pure_eq_ok.1 hf
  exact .condition (gives_condition negated hkey hvalue c hc)

end Surface

namespace Grammar

open Scanner Surface

/-! ## What the scanners of filters yield -/

theorem yields_tagKey : Yields tagKey TagKey.HasForm := by
  refine Yields.firstOf_cons ?_ (Yields.firstOf_cons ?_ yields_firstOf_nil)
  · exact yields_bind fun _ => yields_pure trivial
  · exact yields_name.bind fun k hk => yields_pure hk

theorem yields_tagValue : Yields tagValue TagValue.HasForm := by
  intro s v r h
  rcases firstOf_cons_eq_some_iff.1 h with h | ⟨hpattern, h⟩
  · refine (yields_pattern.between.bind fun p hp => yields_pure ?_) s v r h
    exact hp
  rcases firstOf_cons_eq_some_iff.1 h with h | ⟨-, h⟩
  · refine (yields_pattern.bind fun p hp => yields_pure ?_) s v r h
    exact hp
  rcases firstOf_cons_eq_some_iff.1 h with h | ⟨-, h⟩
  · -- a quoted text that says a pattern would have been read as one
    obtain ⟨x, t, hquoted, h⟩ := bind_eq_some_iff.1 h
    cases h
    show isPrefixPattern x.toList = false
    rw [← Bool.not_eq_true]
    intro hx
    obtain ⟨p, hp⟩ := exists_pattern_of_quoted hquoted hx
    rw [bind_of_some _ hp] at hpattern
    cases hpattern
  refine Yields.firstOf_cons ?_ (Yields.firstOf_cons ?_ (Yields.firstOf_cons ?_
    yields_firstOf_nil)) s v r h
  · exact yields_unquoted.bind fun x hx => yields_pure hx
  · exact (Yields.sepBy (yields_true _)).between.bind fun items hitems => yields_pure hitems.1
  · exact yields_bind fun _ => yields_pure trivial

theorem yields_condition : Yields condition TagFactor.IsSound := by
  refine yields_bind fun negated => yields_tagKey.bind fun key hkey => yields_bind fun _ =>
    yields_bind fun _ => yields_bind fun _ => yields_tagValue.bind fun value hvalue => ?_
  exact yields_pure (isSound_condition negated hkey hvalue)

section

variable {nested : Scanner TagFilter}

theorem yields_tagFactor (h : Yields nested TagFilter.IsSound) :
    Yields (tagFactor nested) TagFactor.IsSound := by
  refine yields_condition.firstOf_cons (Yields.firstOf_cons ?_ yields_firstOf_nil)
  exact h.parens.bind fun terms hterms => yields_pure (isSound_nested hterms)

theorem yields_tagTerm (h : Yields nested TagFilter.IsSound) :
    Yields (tagTerm nested) fun term => term ≠ [] ∧ ∀ factor ∈ term, factor.IsSound := by
  have hfactor := yields_tagFactor h
  refine yields_cons hfactor (yields_bind fun _ => Yields.firstOf_cons ?_
    (hfactor.firstOf_cons yields_firstOf_nil))
  exact yields_bind fun _ => yields_bind fun _ => hfactor

theorem yields_tagFilterOver (h : Yields nested TagFilter.IsSound) :
    Yields (tagFilterOver nested) TagFilter.IsSound :=
  yields_cons (yields_tagTerm h) (yields_bind fun _ => yields_bind fun _ => yields_bind fun _ =>
    yields_tagTerm h)

end

theorem yields_tagFilterWithin (depth : Nat) :
    Yields (tagFilterWithin depth) TagFilter.IsSound := by
  induction depth with
  | zero => exact fun _ _ _ h => nomatch h
  | succ depth ih => exact yields_tagFilterOver ih

/-- **Filters that are read are sound.** -/
theorem yields_tagFilter : Yields tagFilter TagFilter.IsSound :=
  fun s _ _ h => yields_tagFilterWithin _ s _ _ ((bounded_apply _ s).symm.trans h)

/-! ## What the scanners of metrics yield -/

theorem yields_publicName : Yields publicName IsPublicName := by
  refine (yields_takeSome isPublicChar).bind fun first hfirst => ?_
  have hstep : Yields (do
      char '.'
      let part ← takeSome isPublicChar
      pure ('.' :: part)) fun dotted => ∃ part, dotted = '.' :: part ∧ part ≠ [] ∧
        ∀ c ∈ part, isPublicChar c = true :=
    yields_bind fun _ => (yields_takeSome isPublicChar).bind fun part hpart =>
      yields_pure ⟨part, rfl, hpart⟩
  refine hstep.many.bind fun dotted hdotted => yields_pure ?_
  refine ⟨first, dotted.map List.tail, ?_, ?_⟩
  · congr 1
    clear hstep
    induction dotted with
    | nil => rfl
    | cons d dotted ih =>
      obtain ⟨part, rfl, -⟩ := hdotted d (by simp)
      rw [List.flatten_cons, List.map_cons, List.flatMap_cons, List.tail_cons,
        ih fun x hx => hdotted x (by simp [hx])]
  · intro part hpart
    rcases List.mem_cons.1 hpart with rfl | hpart
    · exact hfirst
    · obtain ⟨d, hd, rfl⟩ := List.mem_map.1 hpart
      obtain ⟨part, rfl, h⟩ := hdotted d hd
      exact h

theorem yields_metric : Yields metric MetricRef.HasForm := by
  have hquoted : Yields quotedMri fun m => backQuote ∉ m ∧ ',' ∉ Mri.nameSegment m :=
    fun _ _ _ h => (quotedMri_eq_some_iff.1 h).2.2.1
  have hbare : Yields bareMri fun m => backQuote ∉ m ∧ ',' ∉ Mri.nameSegment m := by
    intro s m r h
    obtain ⟨-, -, hall, -⟩ := bareMri_eq_some_iff.1 h
    exact ⟨not_mem_of_isBareMri hall (by decide), fun hcomma =>
      not_mem_of_isBareMri hall (by decide) (Mri.nameSegment_subset m hcomma)⟩
  refine Yields.firstOf_cons ?_ (Yields.firstOf_cons ?_ (Yields.firstOf_cons ?_
    (Yields.firstOf_cons ?_ yields_firstOf_nil)))
  · exact hquoted.between.bind fun m hm => yields_pure (by simpa [MetricRef.HasForm] using hm)
  · exact hbare.bind fun m hm => yields_pure (by simpa [MetricRef.HasForm] using hm)
  · exact yields_publicName.between.bind fun n hn =>
      yields_pure (by simpa [MetricRef.HasForm] using hn)
  · exact yields_publicName.bind fun n hn => yields_pure (by simpa [MetricRef.HasForm] using hn)

/-! ## What the scanners of parameters yield -/

theorem isUnsigned_ofDigits (whole fraction : List Char) :
    (Double.ofDigits whole fraction).isUnsigned = true := by
  have hmagnitude : ∀ found, (Double.ofMagnitude? false found).isUnsigned = true := by
    intro found
    cases found <;> rfl
  unfold Double.ofDigits Double.ofDecimal
  split
  · exact hmagnitude _
  · exact hmagnitude _

theorem yields_floatNumeral : Yields floatNumeral fun x => x.isUnsigned = true :=
  yields_bind fun _ => yields_bind fun _ => yields_bind fun _ =>
    yields_pure (isUnsigned_ofDigits _ _)

theorem nonneg_ofNat {n : Nat} (h : n < integerBound) : 0 ≤ Int64.ofNat n := by
  rw [Int64.le_iff_toInt_le, Int64.toInt_ofNat_of_lt h]
  simp

theorem yields_intNumeral : Yields intNumeral fun n => 0 ≤ n := by
  intro s n r h
  obtain ⟨digits, -, hlt, rfl⟩ := intNumeral_eq_some_iff.1 h
  exact nonneg_ofNat hlt

theorem yields_param : Yields param fun p => p.toLiteral.IsUnsigned := by
  refine Yields.firstOf_cons ?_ (Yields.firstOf_cons ?_ (Yields.firstOf_cons ?_
    (Yields.firstOf_cons ?_ yields_firstOf_nil)))
  · exact yields_floatNumeral.bind fun x hx => yields_pure (.float hx)
  · exact yields_intNumeral.bind fun n hn => yields_pure (.int hn)
  · exact yields_bind fun s => yields_pure (.string s)
  · exact yields_bind fun s => yields_pure (.string s)

end Grammar

end MetricQuery
