import MetricQuery.Proofs.Joints

/-!
# Filters read back

The text of a normal filter is read back as that filter, whatever follows it: it ends in a quote,
a square bracket or a parenthesis.

* `tagValue_text`            : what a tag is compared with;
* `condition_text`           : a condition;
* `tagFilter_connective`     : factors with a connective between them;
* `Filter.IsNormal.read`     : a filter;
* `braces_text`              : the filters of a query, joined into one.
-/

set_option autoImplicit false

namespace MetricQuery

namespace Grammar

open Scanner Surface Outcome

/-! ## Values -/

/-- What stands between quotes as a pattern does, says a pattern.  It may be a shorter one, since
two backslashes say one. -/
theorem exists_stem_of_splitQuoted? {w : List Char} (hw : ∀ c ∈ w, isUnquoted c = true)
    (r : List Char) :
    ∃ stem, splitQuoted? (w ++ '*' :: '"' :: r) = some (stem ++ ['*'], r) ∧
      (∀ c ∈ stem, isUnquoted c = true) ∧ (w ≠ [] → stem ≠ []) := by
  have hquote : ∀ c, isUnquoted c = true → c ≠ '"' := by
    rintro c hc rfl
    exact absurd hc (by decide)
  match w, hw with
  | [], _ => exact ⟨[], by simp [splitQuoted?], by simp, by simp⟩
  | [c], hw =>
    refine ⟨[c], ?_, hw, by simp⟩
    by_cases hslash : c = '\\'
    · simp [splitQuoted?, hslash]
    · simp [splitQuoted?, hslash, hquote c (hw c (by simp))]
  | c :: d :: w, hw =>
    obtain ⟨hc, hbehind⟩ := List.forall_mem_cons.1 hw
    by_cases hslash : c = '\\'
    · -- the backslash is read with what stands behind it
      subst hslash
      obtain ⟨hd, hw⟩ := List.forall_mem_cons.1 hbehind
      obtain ⟨stem, hread, hstem, -⟩ := exists_stem_of_splitQuoted? hw r
      by_cases hsecond : d = '\\'
      · exact ⟨'\\' :: stem, by simp [splitQuoted?, hread, hsecond],
          List.forall_mem_cons.2 ⟨hc, hstem⟩, by simp⟩
      · exact ⟨'\\' :: d :: stem, by simp [splitQuoted?, hread, hsecond, hquote d hd],
          List.forall_mem_cons.2 ⟨hc, List.forall_mem_cons.2 ⟨hd, hstem⟩⟩, by simp⟩
    · obtain ⟨stem, hread, hstem, -⟩ := exists_stem_of_splitQuoted? hbehind r
      rw [List.cons_append] at hread
      exact ⟨c :: stem, by simp [splitQuoted?, hread, hslash, hquote c hc],
        List.forall_mem_cons.2 ⟨hc, hstem⟩, by simp⟩

theorem pattern_eq_some {s r : List Char} {p : String} (h : pattern s = some (p, r)) :
    ∃ w, s = w ++ '*' :: r ∧ w ≠ [] ∧ ∀ c ∈ w, isUnquoted c = true := by
  obtain ⟨w, t, hw, h⟩ := bind_eq_some_iff.1 h
  obtain ⟨_, u, hstar, h⟩ := bind_eq_some_iff.1 h
  cases h
  obtain ⟨rfl, hne, hall, -⟩ := takeSome_eq_some_iff.1 hw
  exact ⟨w, by rw [char_eq_some_iff.1 hstar], hne, hall⟩

/-- A quoted text that is no pattern is not read as one. -/
theorem quotedPattern_quote {s : String} (h : isPrefixPattern s.toList = false) (r : List Char) :
    between (char '"') pattern (char '"') ((Text.quote s).toList ++ r) = none := by
  cases hread : between (char '"') pattern (char '"') ((Text.quote s).toList ++ r) with
  | none => rfl
  | some found =>
    obtain ⟨p, r'⟩ := found
    obtain ⟨_, t, hopen, hread⟩ := bind_eq_some_iff.1 hread
    obtain ⟨q, u, hpattern, hread⟩ := bind_eq_some_iff.1 hread
    obtain ⟨_, v, hclose, hread⟩ := bind_eq_some_iff.1 hread
    cases hread
    obtain ⟨w, rfl, hne, hall⟩ := pattern_eq_some hpattern
    have htext := char_eq_some_iff.1 hopen
    rw [Text.toList_quote, char_eq_some_iff.1 hclose] at htext
    simp only [List.cons_append, List.append_assoc, List.cons.injEq, true_and,
      List.nil_append] at htext
    obtain ⟨stem, hsaid, hunquoted, hstemne⟩ := exists_stem_of_splitQuoted? hall r'
    rw [← htext, splitQuoted?_escape] at hsaid
    obtain ⟨hstem, -⟩ := Prod.mk.inj (Option.some.inj hsaid)
    rw [isPrefixPattern_iff.2 ⟨stem, hstem, hstemne hne, hunquoted⟩] at h
    cases h

theorem pattern_eq_none {s : List Char} (h : Stops isUnquoted s) : pattern s = none :=
  bind_of_none _ (takeSome_eq_none h)

theorem unquoted_eq_none {s : List Char} (h : Stops isUnquoted s) : unquoted s = none :=
  bind_of_none _ (takeSome_eq_none h)

/-- A text that is no pattern reads back. -/
theorem tagValue_quote {s : String} (h : isPrefixPattern s.toList = false) (r : List Char) :
    tagValue ((Text.quote s).toList ++ r) = some (.string s, r) := by
  have hstop : Stops isUnquoted ((Text.quote s).toList ++ r) := by
    rw [Text.toList_quote]
    simp
    decide
  unfold tagValue
  rw [firstOf_of_none _ (bind_of_none _ (quotedPattern_quote h r)),
    firstOf_of_none _ (bind_of_none _ (pattern_eq_none hstop))]
  refine firstOf_of_some _ ?_
  rw [bind_of_some _ (quoted_quote s r), pure_apply]

/-- A pattern between quotes reads back. -/
theorem tagValue_pattern {s : String} (h : isPrefixPattern s.toList = true) (r : List Char) :
    tagValue (("\"" ++ s ++ "\"").toList ++ r) = some (.wildcard s, r) := by
  obtain ⟨stem, hs, hne, hall⟩ := isPrefixPattern_iff.1 h
  have hpattern : pattern (stem ++ '*' :: '"' :: r) = some (s, '"' :: r) := by
    unfold pattern
    rw [bind_of_some _ (takeSome_of_stops hne hall (by simp; decide)),
      bind_of_some _ (char_cons_self _ _), pure_apply, ← hs, String.ofList_toList]
  have htext : ("\"" ++ s ++ "\"").toList ++ r = '"' :: (stem ++ '*' :: '"' :: r) := by
    simp [hs]
  rw [htext]
  refine firstOf_of_some _ ?_
  rw [bind_of_some _ (between_of_some (char_cons_self _ _) hpattern (char_cons_self _ _)),
    pure_apply]

theorem stops_isBlank_quote (s : String) (r : List Char) :
    Stops Text.isBlank ((Text.quote s).toList ++ r) := by
  rw [Text.toList_quote]
  simp
  decide

/-- A list of texts reads back. -/
theorem tagValue_list {items : List String} (hne : items ≠ []) (r : List Char) :
    tagValue (("[" ++ Text.join ", " (items.map Text.quote) ++ "]").toList ++ r) =
      some (.list items, r) := by
  have hitems : sepBy (firstOf [quoted, unquoted]) comma
      ((Text.join ", " (items.map Text.quote)).toList ++ ']' :: r) = some (items, ']' :: r) := by
    refine sepBy_join (fun _ => True) (by simpa using hne) (by decide) ?_ (fun _ _ _ => trivial)
      trivial (comma_eq_none ?_)
    · rw [List.forall₂_map_left_iff, List.forall₂_same]
      exact fun s _ t _ => ⟨firstOf_of_some _ (quoted_quote s t),
        comma_space (stops_isBlank_quote s t)⟩
    · rw [trimStart_of_stops (by simp; decide)]
      simp
  obtain ⟨s, items', rfl⟩ := List.exists_cons_of_ne_nil hne
  have hblank : Text.trimStart ((Text.join ", " ((s :: items').map Text.quote)).toList ++ ']' :: r) =
      (Text.join ", " ((s :: items').map Text.quote)).toList ++ ']' :: r := by
    refine trimStart_of_stops ?_
    rw [List.map_cons, toList_join_cons, List.append_assoc]
    exact stops_isBlank_quote s _
  have htext : ("[" ++ Text.join ", " ((s :: items').map Text.quote) ++ "]").toList ++ r =
      '[' :: ((Text.join ", " ((s :: items').map Text.quote)).toList ++ ']' :: r) := by
    simp
  have hread : stringList ('[' :: ((Text.join ", " ((s :: items').map Text.quote)).toList ++
      ']' :: r)) = some (s :: items', r) := by
    refine between_of_some ?_ hitems ?_
    · rw [bind_of_some _ (char_cons_self _ _), blanks_apply, hblank]
    · rw [bind_of_some _ (blanks_apply _), trimStart_of_stops (by simp; decide), char_cons_self]
  have hopen : ∀ t, between (char '"') pattern (char '"') ('[' :: t) = none :=
    fun t => bind_of_none _ (char_cons_ne (by decide) t)
  rw [htext]
  unfold tagValue
  rw [firstOf_of_none _ (bind_of_none _ (hopen _)),
    firstOf_of_none _ (bind_of_none _ (pattern_eq_none (by simp; decide))),
    firstOf_of_none _ (bind_of_none _ (quoted_eq_none (by simp))),
    firstOf_of_none _ (bind_of_none _ (unquoted_eq_none (by simp; decide)))]
  refine firstOf_of_some _ ?_
  rw [bind_of_some _ hread, pure_apply]

/-- **What a tag is compared with reads back.** -/
theorem tagValue_text {op : Comparison} {value : Literal} {found : Bool × String}
    (h : op.Takes value) (ht : op.valueText value = .ok found) :
    ∃ v : TagValue, v.comparison found.1 = .ok (op, value) ∧
      (∀ r, Stops Text.isBlank (found.2.toList ++ r)) ∧
      ∀ r, tagValue (found.2.toList ++ r) = some (v, r) := by
  cases h with
  | @exact s hop h =>
    refine ⟨.string s, ?_⟩
    rcases hop with rfl | rfl
    all_goals
      rw [Comparison.valueText, bind_of_ok _ (Literal.exactValue_string h)] at ht
      cases ht
      exact ⟨rfl, stops_isBlank_quote s, tagValue_quote h⟩
  | @pattern s hop h =>
    refine ⟨.wildcard s, ?_⟩
    rcases hop with rfl | rfl
    all_goals
      rw [Comparison.valueText, bind_of_ok _ (Literal.wildcardValue_string h)] at ht
      cases ht
      exact ⟨rfl, fun r => by simp; decide, tagValue_pattern h⟩
  | @list items hop h =>
    refine ⟨.list items, ?_⟩
    rcases hop with rfl | rfl
    all_goals
      rw [Comparison.valueText, bind_of_ok _ (Literal.tagList_ofStrings items)] at ht
      cases ht
      exact ⟨rfl, fun r => by simp; decide, tagValue_list h⟩

/-! ## Conditions -/

/-- Behind a key and a colon a value is read. -/
theorem condition_key {negated : Bool} {n : String} {s : List Char} (hn : isName n.toList = true)
    (hblank : Stops Text.isBlank s) :
    condition ((if negated then ['!'] else []) ++ (n.toList ++ ':' :: s)) =
      (do
        let v ← tagValue
        pure (.condition negated (.name n) v) : Scanner TagFactor) s := by
  have hflag : flag '!' ((if negated then ['!'] else []) ++ (n.toList ++ ':' :: s)) =
      some (negated, n.toList ++ ':' :: s) := by
    cases negated with
    | true => exact flag_cons_self _ _
    | false => exact flag_of_ne (head?_name_ne hn (by decide) _)
  have hcolon : Text.trimStart (':' :: s) = ':' :: s := trimStart_of_stops (by simp; decide)
  unfold condition
  rw [bind_of_some _ hflag, bind_of_some _ (tagKey_name hn (by simp; decide)),
    bind_of_some _ (blanks_apply _), hcolon, bind_of_some _ (char_cons_self _ _),
    bind_of_some _ (blanks_apply _), trimStart_of_stops hblank]

/-- A key, a colon and a value behind them. -/
theorem condition_parts {negated : Bool} {n : String} {v : TagValue} {value r : List Char}
    (hn : isName n.toList = true) (hblank : Stops Text.isBlank (value ++ r))
    (hv : tagValue (value ++ r) = some (v, r)) :
    condition ((if negated then ['!'] else []) ++ (n.toList ++ ':' :: (value ++ r))) =
      some (.condition negated (.name n) v, r) := by
  rw [condition_key hn hblank, bind_of_some _ hv, pure_apply]

/-- A condition starts with its key, or with an exclamation mark. -/
theorem startsFactor_condition {negated : Bool} {n : String} (hn : isName n.toList = true)
    (value : String) :
    StartsFactor ((if negated then "!" else "") ++ n ++ ":" ++ value) := by
  obtain ⟨hne, hall⟩ := Bool.and_eq_true_iff.1 hn
  obtain ⟨x, w, hxw⟩ := List.exists_cons_of_ne_nil (l := n.toList) (by simpa using hne)
  have hx := List.all_eq_true.1 hall x (by rw [hxw]; simp)
  cases negated with
  | true => exact ⟨'!', n.toList ++ ':' :: value.toList, by simp, .inl rfl⟩
  | false => exact ⟨x, w ++ ':' :: value.toList, by simp [hxw], .inr (.inr hx)⟩

theorem toList_condition (negated : Bool) (n value : String) (r : List Char) :
    ((if negated then "!" else "") ++ n ++ ":" ++ value).toList ++ r =
      (if negated then ['!'] else []) ++ (n.toList ++ ':' :: (value.toList ++ r)) := by
  cases negated <;> simp

/-- **A condition reads back.** -/
theorem condition_text {c : Condition} {text : String} (h : c.IsNormal)
    (ht : c.print = .ok text) :
    StartsFactor text ∧ ∃ a : TagFactor, a.reduce = .ok (.condition c) ∧
      ∀ r, condition (text.toList ++ r) = some (a, r) := by
  cases h with
  | @mk n op value hname hvalue =>
    obtain ⟨key, hkey, ht⟩ := bind_eq_ok.1 ht
    obtain ⟨⟨negated, found⟩, hfound, ht⟩ := bind_eq_ok.1 ht
    cases pure_eq_ok.1 ht
    rw [hname.print_eq] at hkey
    cases hkey
    obtain ⟨v, hcomparison, hblank, hread⟩ := tagValue_text hvalue hfound
    refine ⟨startsFactor_condition hname.isName found, .condition negated (.name n) v, ?_,
      fun r => ?_⟩
    · have hcolumn : column n = .ok ⟨n⟩ := by
        unfold column
        rw [hname.valid]
        rfl
      have hcondition : tagCondition negated (.name n) v = .ok (.ofColumn n op value) := by
        unfold tagCondition
        dsimp only
        rw [bind_of_ok _ hcolumn, bind_of_ok _ hcomparison]
        rfl
      rw [TagFactor.reduce, bind_of_ok _ hcondition]
      rfl
    · rw [toList_condition]
      exact condition_parts hname.isName (hblank r) (hread r)

/-! ## Factors with connectives between them -/

section

variable {nested : Scanner TagFilter}

/-- A factor that reads back wherever it stands. -/
def FactorReads (nested : Scanner TagFilter) (text : String) (a : TagFactor) : Prop :=
  StartsFactor text ∧ ∀ r, tagFactor nested (text.toList ++ r) = some (a, r)

theorem starts_of_reads {texts : List String} {as : List TagFactor}
    (h : List.Forall₂ (FactorReads nested) texts as) : ∀ t ∈ texts, StartsFactor t := by
  induction h with
  | nil => simp
  | cons ht _ ih => exact List.forall_mem_cons.2 ⟨ht.1, ih⟩

/-- Factors with `AND` between them make one term, up to where no other factor follows. -/
theorem tagTerm_and {t : String} {texts : List String} {a : TagFactor} {as : List TagFactor}
    {s : List Char} (ht : FactorReads nested t a) (hts : List.Forall₂ (FactorReads nested) texts as)
    (hs : furtherFactor nested s = none) :
    tagTerm nested (t.toList ++ (joinedTail " AND " texts ++ s)) = some (a :: as, s) := by
  have hmany : many (furtherFactor nested) (joinedTail " AND " texts ++ s) = some (as, s) :=
    many_joinedTail (fun _ => True) (by decide)
      (hts.imp fun u b hu s _ => (furtherFactor_and hu.1 s).trans (hu.2 s))
      (fun _ _ _ => trivial) trivial hs
  rw [tagTerm_eq, bind_of_some _ (ht.2 _), bind_of_some _ hmany, pure_apply]

/-- A factor on which no other follows makes a term alone. -/
theorem tagTerm_one {t : String} {a : TagFactor} {r : List Char} (h : FactorReads nested t a)
    (hr : furtherFactor nested r = none) : tagTerm nested (t.toList ++ r) = some ([a], r) := by
  have hnone := tagTerm_and h .nil hr
  rwa [joinedTail_nil, List.nil_append] at hnone

end

/-! ## Filters -/

/-- What a connective makes of factors: one term of them all, or a term of each. -/
def termsOf (op : Connective) (as : List TagFactor) : TagFilter :=
  match op with
  | .and => [as]
  | .or => as.map fun a => [a]

/-- **Factors with a connective between them make a filter**, up to where neither another factor nor
another term follows. -/
theorem tagFilter_connective (op : Connective) {t : String} {texts : List String} {a : TagFactor}
    {as : List TagFactor} {s : List Char} (ht : FactorReads tagFilter t a)
    (hts : List.Forall₂ (FactorReads tagFilter) texts as)
    (hfactor : furtherFactor tagFilter s = none) (hterm : furtherTerm tagFilter s = none) :
    tagFilter (t.toList ++ (joinedTail (" " ++ op.text ++ " ") texts ++ s)) =
      some (termsOf op (a :: as), s) := by
  rw [tagFilter_eq, tagFilterOver_eq]
  cases op with
  | and =>
    exact (bind_of_some _ (tagTerm_and ht hts hfactor)).trans (bind_of_some _ (many_nil hterm))
  | or =>
    have hstop : ∀ u ∈ texts, ∀ s, furtherFactor tagFilter (" OR ".toList ++ (u.toList ++ s)) =
        none := fun u hu s => furtherFactor_or (starts_of_reads hts u hu) s
    have hmany : many (furtherTerm tagFilter) (joinedTail " OR " texts ++ s) =
        some (as.map fun a => [a], s) := by
      refine many_joinedTail (fun s => furtherFactor tagFilter s = none) (by decide) ?_ hstop
        hfactor hterm
      rw [List.forall₂_map_right_iff]
      exact hts.imp fun u b hu s hs => (furtherTerm_or hu.1 s).trans (tagTerm_one hu hs)
    have hfirst := joinedTail_follows (fun s => furtherFactor tagFilter s = none) hstop hfactor
    exact (bind_of_some _ (tagTerm_one ht hfirst)).trans (bind_of_some _ hmany)

/-- Joined factors make a filter where one may end. -/
theorem tagFilter_join (op : Connective) {texts : List String} {as : List TagFactor}
    {r : List Char} (h : List.Forall₂ (FactorReads tagFilter) texts as) (hne : texts ≠ [])
    (hr : ClosesFilter r) :
    tagFilter ((Text.join (" " ++ op.text ++ " ") texts).toList ++ r) =
      some (termsOf op as, r) := by
  cases h with
  | nil => exact absurd rfl hne
  | cons ht hts =>
    rw [toList_join_cons, List.append_assoc]
    exact tagFilter_connective op ht hts (furtherFactor_closes hr) (furtherTerm_closes hr)

/-- The filter that factors with a connective between them give. -/
theorem reduce_termsOf (op : Connective) {as : List TagFactor} {fs : List Filter}
    (h : List.Forall₂ (fun a f => a.reduce = .ok f) as fs) :
    TagFilter.reduce (termsOf op as) = .ok (joined op fs) := by
  unfold TagFilter.reduce
  cases op with
  | and =>
    have hfactors : reduceFactors as = .ok fs := by
      rw [reduceFactors_eq, mapM_eq_ok]
      exact h
    rw [termsOf, reduceTerms, bind_of_ok _ hfactors]
    rfl
  | or =>
    have hterms : reduceTerms (as.map fun a => [a]) = .ok fs := by
      rw [reduceTerms_eq, mapM_eq_ok, List.forall₂_map_left_iff]
      refine h.imp fun a f ha => ?_
      unfold TagTerm.reduce
      rw [reduceFactors, bind_of_ok _ ha]
      rfl
    rw [termsOf, bind_of_ok _ hterms]
    rfl

theorem joined_of_two {op : Connective} {fs : List Filter} (h : 2 ≤ fs.length) :
    joined op fs = .group op fs := by
  match fs, h with
  | f :: g :: rest, _ => rfl

/-- In front of a parenthesis a factor is what stands in parentheses. -/
theorem tagFactor_paren (s : List Char) :
    tagFactor tagFilter ('(' :: s) =
      (do let terms ← parens tagFilter; pure (.nested terms) : Scanner TagFactor) ('(' :: s) := by
  unfold tagFactor
  rw [firstOf_of_none _ (condition_eq_none (by simp) (by simp; decide) (by simp)),
    firstOf_singleton]

/-- A filter in parentheses is a factor. -/
theorem factorReads_nested {text : String} {terms : TagFilter}
    (hblank : ∀ r, Stops Text.isBlank (text.toList ++ r))
    (hread : ∀ r, ClosesFilter r → tagFilter (text.toList ++ r) = some (terms, r)) :
    FactorReads tagFilter ("(" ++ text ++ ")") (.nested terms) := by
  refine ⟨⟨'(', text.toList ++ [')'], by simp, .inr (.inl rfl)⟩, fun r => ?_⟩
  have htext : ("(" ++ text ++ ")").toList ++ r = '(' :: (text.toList ++ ')' :: r) := by
    simp
  rw [htext, tagFactor_paren,
    bind_of_some _ (parens_of_some (hblank _) (hread _ (.inl rfl))), pure_apply]

end Grammar

open Grammar Scanner Surface Outcome

/-- The texts of filters that read back, read back one by one. -/
theorem Filter.exists_factors {fs : List Filter} {texts : List String}
    (ht : fs.mapM Filter.print = .ok texts)
    (h : ∀ f ∈ fs, ∀ text, f.print = .ok text →
      ∃ a : TagFactor, a.reduce = .ok f ∧ FactorReads tagFilter text a) :
    ∃ as : List TagFactor, List.Forall₂ (fun a f => a.reduce = .ok f) as fs ∧
      List.Forall₂ (FactorReads tagFilter) texts as := by
  have hall := mapM_eq_ok.1 ht
  clear ht
  induction hall with
  | nil => exact ⟨[], .nil, .nil⟩
  | @cons f text fs texts hf _ ih =>
    obtain ⟨a, ha, hread⟩ := h f (by simp) text hf
    obtain ⟨as, has, hreads⟩ := ih fun g hg => h g (by simp [hg])
    exact ⟨a :: as, .cons ha has, .cons hread hreads⟩

theorem stops_isBlank_join {nested : Scanner TagFilter} {texts : List String}
    {as : List TagFactor} {sep : String} {r : List Char}
    (h : List.Forall₂ (FactorReads nested) texts as) (hne : texts ≠ []) :
    Stops Text.isBlank ((Text.join sep texts).toList ++ r) := by
  cases h with
  | nil => exact absurd rfl hne
  | cons ht _ =>
    rw [toList_join_cons, List.append_assoc]
    exact ht.1.stops_isBlank _

/-- **A normal filter reads back**, whatever follows it. -/
theorem Filter.IsNormal.read {f : Filter} (h : f.IsNormal) :
    ∀ text, f.print = .ok text →
      ∃ a : TagFactor, a.reduce = .ok f ∧ FactorReads tagFilter text a := by
  induction h with
  | condition hc =>
    intro text ht
    rw [Filter.print] at ht
    obtain ⟨hstart, a, ha, hread⟩ := condition_text hc ht
    exact ⟨a, ha, hstart, fun r => firstOf_of_some _ (hread r)⟩
  | @group op members hlen _ ih =>
    intro text ht
    rw [Filter.print, Filter.printAll_eq] at ht
    obtain ⟨texts, htexts, ht⟩ := bind_eq_ok.1 ht
    cases pure_eq_ok.1 ht
    obtain ⟨as, has, hreads⟩ := Filter.exists_factors htexts ih
    have hne : texts ≠ [] := ne_nil_of_mapM htexts (List.ne_nil_of_length_pos (by omega))
    refine ⟨.nested (termsOf op as), ?_, factorReads_nested
      (fun _ => stops_isBlank_join hreads hne) (fun _ => tagFilter_join op hreads hne)⟩
    rw [TagFactor.reduce, ← joined_of_two hlen]
    exact reduce_termsOf op has

namespace Grammar

/-! ## Filters in braces -/

theorem optionalBraces_eq_none {r : List Char} (h : r.head? ≠ some '\x7b') :
    optionalBraces r = some (none, r) := by
  unfold optionalBraces braces between
  rw [bind_of_some _ (attempt_of_none (bind_of_none _ (char_eq_none h))), pure_apply]
  rfl

/-- A filter up to a brace is read between braces. -/
theorem optionalBraces_of_tagFilter {s r : List Char} {terms : TagFilter}
    (hs : Stops Text.isBlank s) (h : tagFilter s = some (terms, '\x7d' :: r)) :
    optionalBraces ('\x7b' :: s) = some (some terms, r) := by
  have hclose : Text.trimStart ('\x7d' :: r) = '\x7d' :: r :=
    trimStart_of_stops (by simp; decide)
  have hbody : between blanks tagFilter blanks s = some (terms, '\x7d' :: r) := by
    refine between_of_some ?_ h ?_
    · rw [blanks_apply, trimStart_of_stops hs]
    · rw [blanks_apply, hclose]
  have hbraces : braces ('\x7b' :: s) = some (some terms, r) :=
    between_of_some (char_cons_self _ _) (attempt_of_some hbody) (char_cons_self _ _)
  unfold optionalBraces
  rw [bind_of_some _ (attempt_of_some hbraces), pure_apply]
  rfl

/-- **The filters of a query read back**, as one filter. -/
theorem braces_text {fs : List Filter} {text : String} (hne : fs ≠ [])
    (h : ∀ f ∈ fs, f.IsNormal) (ht : bracesText fs = .ok text) :
    text.toList.head? = some '\x7b' ∧
      ∃ terms : TagFilter, TagFilter.reduce terms = .ok (joined .and fs) ∧
        ∀ r, optionalBraces (text.toList ++ r) = some (some terms, r) := by
  obtain ⟨texts, htexts, rfl⟩ : ∃ texts, fs.mapM Filter.print = .ok texts ∧
      text = "\x7b" ++ Text.join " AND " texts ++ "\x7d" := by
    unfold bracesText at ht
    split at ht
    · exact absurd rfl hne
    · rw [Filter.printAll_eq] at ht
      obtain ⟨texts, htexts, ht⟩ := bind_eq_ok.1 ht
      cases pure_eq_ok.1 ht
      exact ⟨texts, htexts, rfl⟩
  obtain ⟨as, has, hreads⟩ := Filter.exists_factors htexts fun f hf => (h f hf).read
  have htextsne : texts ≠ [] := ne_nil_of_mapM htexts hne
  refine ⟨by simp, termsOf .and as, reduce_termsOf .and has, fun r => ?_⟩
  have htext : ("\x7b" ++ Text.join " AND " texts ++ "\x7d").toList ++ r =
      '\x7b' :: ((Text.join " AND " texts).toList ++ '\x7d' :: r) := by
    simp
  rw [htext]
  exact optionalBraces_of_tagFilter (stops_isBlank_join hreads htextsne)
    (tagFilter_join .and hreads htextsne (.inr rfl))

end Grammar

end MetricQuery
