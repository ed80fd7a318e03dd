import MetricQuery.Proofs.ListText

/-!
# Filters in any spelling

A filter is spelled as terms with `OR` between them, and a term as factors with blanks, a comma or
`AND` between them.  Which of them stands where makes no difference, and neither does a key that is
spelled like one of them.

* `FilterTree.filter`   : the filter that a tree of terms and factors stands for;
* `SpellsFilter`        : the texts that spell a tree;
* `SpellsFilter.reads`  : every such text is read as the filter of the tree;
* `Query.parse_spelled` : so is the text of a series with such a filter in braces.
-/

set_option autoImplicit false

namespace MetricQuery

open Grammar Scanner Surface Outcome

/-! ## Trees -/

/-- A filter as it is spelled: a condition, or terms in parentheses, each of them a list of
factors. -/
inductive FilterTree
  | condition (c : Condition)
  | nested (terms : List (List FilterTree))

namespace FilterTree

/-- Filters as one: a filter that is alone stays as it is. -/
def combined (op : Connective) : List Filter → Filter
  | [f] => f
  | members => .group op members

theorem joined_eq_combined (op : Connective) (fs : List Filter) :
    joined op fs = combined op fs := by
  match fs with
  | [] => rfl
  | [f] => rfl
  | f :: g :: rest => rfl

mutual

/-- The filter that a factor stands for.  A list comes back as an array. -/
def filter : FilterTree → Filter
  | condition c => .condition c.listed
  | nested terms => combined .or (termFilters terms)

/-- The filters that terms stand for. -/
def termFilters : List (List FilterTree) → List Filter
  | [] => []
  | factors :: rest => combined .and (factorFilters factors) :: termFilters rest

/-- The filters that factors stand for. -/
def factorFilters : List FilterTree → List Filter
  | [] => []
  | factor :: rest => factor.filter :: factorFilters rest

end

end FilterTree

open FilterTree

mutual

/-- The text of a factor: what is written of a condition on a valid key, if there is no list
without items in it, or the text of a filter in parentheses. -/
inductive SpellsFactor : FilterTree → String → Prop
  | condition {c : Condition} {text : String} (hkey : c.lhs.validate = .ok ())
      (ht : c.print = .ok text) (hfilled : ¬ c.HasEmptyList) : SpellsFactor (.condition c) text
  | nested {terms : List (List FilterTree)} {text : String} (h : SpellsFilter terms text) :
      SpellsFactor (.nested terms) ("(" ++ text ++ ")")

/-- The text of a term: its factors with joints between them. -/
inductive SpellsTerm : List FilterTree → String → Prop
  | one {factor : FilterTree} {text : String} (h : SpellsFactor factor text) :
      SpellsTerm [factor] text
  | more {factor : FilterTree} {factors : List FilterTree} {text joint others : String}
      (h : SpellsFactor factor text) (hjoint : IsJoint joint) (hothers : SpellsTerm factors others) :
      SpellsTerm (factor :: factors) (text ++ joint ++ others)

/-- The text of a filter: its terms with `OR` between them. -/
inductive SpellsFilter : List (List FilterTree) → String → Prop
  | one {term : List FilterTree} {text : String} (h : SpellsTerm term text) :
      SpellsFilter [term] text
  | more {term : List FilterTree} {terms : List (List FilterTree)} {text word others : String}
      (h : SpellsTerm term text) (hword : IsAlternation word)
      (hothers : SpellsFilter terms others) :
      SpellsFilter (term :: terms) (text ++ word ++ others)

end

/-! ## Terms and filters -/

namespace Grammar

section

variable {a : TagFactor} {as : TagTerm} {terms : TagFilter} {s t r : List Char}

/-- A factor and a joint in front of a term make a longer term. -/
theorem tagTerm_joint {j : String} (hj : IsJoint j) (hs : Stops Text.isBlank s)
    (ha : tagFactor tagFilter t = some (a, j.toList ++ s)) (h : tagTerm tagFilter s = some (as, r)) :
    tagTerm tagFilter t = some (a :: as, r) := by
  rw [tagTerm_eq] at h
  obtain ⟨b, s', hb, h⟩ := bind_eq_some_iff.1 h
  obtain ⟨bs, r', hbs, h⟩ := bind_eq_some_iff.1 h
  cases h
  have hmany := many_cons_append hj.ne_nil (furtherFactor_joint hj hs hb) (Shrinks.length_le hb) hbs
  rw [tagTerm_eq, bind_of_some _ ha, bind_of_some _ hmany, pure_apply]

/-- A term and `OR` in front of a filter make a longer filter. -/
theorem tagFilter_alternation {j : String} (hj : IsAlternation j) (hs : Stops Text.isBlank s)
    (ht : tagTerm tagFilter t = some (as, j.toList ++ s)) (h : tagFilter s = some (terms, r)) :
    tagFilter t = some (as :: terms, r) := by
  rw [tagFilter_eq, tagFilterOver_eq] at h
  obtain ⟨b, s', hb, h⟩ := bind_eq_some_iff.1 h
  obtain ⟨bs, r', hbs, h⟩ := bind_eq_some_iff.1 h
  cases h
  have hmany := many_cons_append hj.ne_nil ((furtherTerm_alternation hj hs).trans hb)
    (Shrinks.length_le hb) hbs
  rw [tagFilter_eq, tagFilterOver_eq, bind_of_some _ ht, bind_of_some _ hmany, pure_apply]

end

end Grammar

/-! ## Texts that spell a tree -/

/-- The text is read as a factor with the filter of the tree, wherever it stands. -/
def ReadsFactor (factor : FilterTree) (text : String) : Prop :=
  ∃ a : TagFactor, a.reduce = .ok factor.filter ∧ FactorReads tagFilter text a

/-- The text is read as a term with the filters of the factors, where no other factor follows. -/
structure ReadsTerm (factors : List FilterTree) (text : String) : Prop where
  starts : StartsFactor text
  read : ∃ as : TagTerm, reduceFactors as = .ok (factorFilters factors) ∧
    ∀ r, furtherFactor tagFilter r = none → tagTerm tagFilter (text.toList ++ r) = some (as, r)

/-- The text is read as a filter with the filters of the terms, where a filter may end. -/
structure ReadsFilter (terms : List (List FilterTree)) (text : String) : Prop where
  starts : StartsFactor text
  read : ∃ found : TagFilter, reduceTerms found = .ok (termFilters terms) ∧
    ∀ r, ClosesFilter r → tagFilter (text.toList ++ r) = some (found, r)

theorem readsFactor_condition {c : Condition} {text : String} (hkey : c.lhs.validate = .ok ())
    (ht : c.print = .ok text) (hfilled : ¬ c.HasEmptyList) : ReadsFactor (.condition c) text := by
  rcases Filter.condition_listed_or_stuck hkey ht with hlisted | hunlisted
  · exact hlisted.normal.read text hlisted.print_eq
  · obtain ⟨c', hc', hempty⟩ := hunlisted.empty
    rw [Filter.conditions, List.mem_singleton] at hc'
    exact absurd (hc' ▸ hempty) hfilled

theorem ReadsFilter.nested {terms : List (List FilterTree)} {text : String}
    (h : ReadsFilter terms text) : ReadsFactor (.nested terms) ("(" ++ text ++ ")") := by
  obtain ⟨found, hreduce, hread⟩ := h.read
  refine ⟨.nested found, ?_, factorReads_nested h.starts.stops_isBlank hread⟩
  rw [TagFactor.reduce, bind_of_ok _ hreduce, joined_eq_combined]
  rfl

theorem ReadsFactor.term {factor : FilterTree} {text : String} (h : ReadsFactor factor text) :
    ReadsTerm [factor] text := by
  obtain ⟨a, hreduce, hread⟩ := h
  refine ⟨hread.1, [a], ?_, fun r hr => tagTerm_one hread hr⟩
  rw [reduceFactors, bind_of_ok _ hreduce]
  rfl

theorem ReadsTerm.cons {factor : FilterTree} {factors : List FilterTree} {text joint others : String}
    (h : ReadsFactor factor text) (hjoint : IsJoint joint) (hothers : ReadsTerm factors others) :
    ReadsTerm (factor :: factors) (text ++ joint ++ others) := by
  obtain ⟨a, ha, hread⟩ := h
  obtain ⟨as, has, hreads⟩ := hothers.read
  refine ⟨by rw [String.append_assoc]; exact hread.1.append _, a :: as, ?_, fun r hr => ?_⟩
  · rw [reduceFactors, bind_of_ok _ ha, bind_of_ok _ has]
    rfl
  · refine tagTerm_joint hjoint (hothers.starts.stops_isBlank r) ?_ (hreads r hr)
    rw [String.toList_append, String.toList_append, List.append_assoc, List.append_assoc]
    exact hread.2 _

theorem reduceTerms_cons {as : TagTerm} {found : TagFilter} {factors : List FilterTree}
    {terms : List (List FilterTree)} (has : reduceFactors as = .ok (factorFilters factors))
    (hfound : reduceTerms found = .ok (termFilters terms)) :
    reduceTerms (as :: found) = .ok (termFilters (factors :: terms)) := by
  rw [reduceTerms, bind_of_ok _ has, bind_of_ok _ hfound, joined_eq_combined]
  rfl

theorem ReadsTerm.filter {factors : List FilterTree} {text : String} (h : ReadsTerm factors text) :
    ReadsFilter [factors] text := by
  obtain ⟨as, has, hread⟩ := h.read
  refine ⟨h.starts, [as], reduceTerms_cons has rfl, fun r hr => ?_⟩
  rw [tagFilter_eq, tagFilterOver_eq, bind_of_some _ (hread r (furtherFactor_closes hr)),
    bind_of_some _ (many_nil (furtherTerm_closes hr)), pure_apply]

theorem ReadsFilter.cons {factors : List FilterTree} {terms : List (List FilterTree)}
    {text word others : String} (h : ReadsTerm factors text) (hword : IsAlternation word)
    (hothers : ReadsFilter terms others) :
    ReadsFilter (factors :: terms) (text ++ word ++ others) := by
  obtain ⟨as, has, hread⟩ := h.read
  obtain ⟨found, hfound, hreads⟩ := hothers.read
  refine ⟨by rw [String.append_assoc]; exact h.starts.append _, as :: found,
    reduceTerms_cons has hfound, fun r hr => ?_⟩
  have hblank := hothers.starts.stops_isBlank r
  refine tagFilter_alternation hword hblank ?_ (hreads r hr)
  rw [String.toList_append, String.toList_append, List.append_assoc, List.append_assoc]
  exact hread _ (furtherFactor_alternation hword hblank (hothers.starts.head?_ne_colon r))

mutual

theorem SpellsFactor.reads {factor : FilterTree} {text : String} :
    SpellsFactor factor text → ReadsFactor factor text
  | .condition hkey ht hfilled => readsFactor_condition hkey ht hfilled
  | .nested h => h.reads.nested

theorem SpellsTerm.reads {factors : List FilterTree} {text : String} :
    SpellsTerm factors text → ReadsTerm factors text
  | .one h => h.reads.term
  | .more h hjoint hothers => .cons h.reads hjoint hothers.reads

/-- **Every text that spells a tree is read as its filter.** -/
theorem SpellsFilter.reads {terms : List (List FilterTree)} {text : String} :
    SpellsFilter terms text → ReadsFilter terms text
  | .one h => h.reads.filter
  | .more h hword hothers => .cons h.reads hword hothers.reads

end

/-- A filter in braces is read, up to the brace that closes it. -/
theorem ReadsFilter.optionalBraces {terms : List (List FilterTree)} {text : String}
    (h : ReadsFilter terms text) :
    ∃ found : TagFilter, TagFilter.reduce found = .ok (combined .or (termFilters terms)) ∧
      ∀ r, optionalBraces ('\x7b' :: (text.toList ++ '\x7d' :: r)) = some (some found, r) := by
  obtain ⟨found, hreduce, hread⟩ := h.read
  refine ⟨found, ?_, fun r => optionalBraces_of_tagFilter (h.starts.stops_isBlank _)
    (hread _ (.inr rfl))⟩
  unfold TagFilter.reduce
  rw [bind_of_ok _ hreduce, joined_eq_combined]
  rfl

namespace Query

/-- **Which separators stand in a filter makes no difference.**  Where the text in the braces spells
terms and factors, whatever stands between them and however keys are spelled, the text is read as the
sum of `foo` over their filter. -/
theorem parse_spelled {terms : List (List FilterTree)} {text : String}
    (h : SpellsFilter terms text) :
    Query.parse ("sum(foo)" ++ ("\x7b" ++ text ++ "\x7d")) =
      .ok (.summed (combined .or (termFilters terms))) := by
  obtain ⟨found, hfound, hbraces⟩ := h.reads.optionalBraces
  obtain ⟨ref, href, hcall⟩ := call_foo (text.toList ++ ['\x7d'])
  have he := expression_call isCallName_sum hcall
    (groupBy_eq_none (head?_trimStart_ne (by decide) (by decide) _)) (hbraces [])
    (groupBy_eq_none (by simp [Text.trimStart])) (by simp [Text.trimStart])
  rw [parse_eq_ok, trim_braces, toList_braces]
  refine ⟨_, he, query_eq_ok.2 ?_⟩
  have hadd : addFilter (some found) (.timeseries ⟨.ofPublicName "foo", "sum", none, none, none⟩) =
      .ok (.summed (combined .or (termFilters terms))) := by
    unfold addFilter
    dsimp only
    rw [bind_of_ok _ hfound]
    rfl
  have htarget : (Target.call (.aggregate "sum" none ⟨ref, none, none⟩) none).reduce =
      .ok (.timeseries ⟨.ofPublicName "foo", "sum", none, none, none⟩) := by
    rw [Target.reduce, bind_of_ok _ (reduce_aggregate href "sum" none)]
    rfl
  rw [reduce_unary, reduce_positive, Coefficient.reduce, bind_of_ok _ htarget, bind_of_ok _ hadd]
  rfl

/-- Keys that are spelled like joints, with and without joints between them. -/
theorem parse_spelled_keywords :
    let key (name value : String) : Condition := .ofColumn name .eq (.string value)
    let terms : List (List FilterTree) :=
      [[.condition (key "and" "x"), .nested [[.condition (key "or" "y")], [.condition (key "OR" "z")]],
        .condition (key "and" "v")], [.condition (key "AND" "w")]]
    let text := "and:\"x\" , (or:\"y\" OR OR:\"z\") and:\"v\"\tor AND:\"w\""
    SpellsFilter terms text ∧ Query.parse ("sum(foo)" ++ ("\x7b" ++ text ++ "\x7d")) =
      .ok (.summed (.group .or [.group .and [.condition (key "and" "x"),
        .group .or [.condition (key "or" "y"), .condition (key "OR" "z")],
        .condition (key "and" "v")], .condition (key "AND" "w")])) := by
  intro key terms text
  have hgap : ∀ s ∈ [" ", "\t"], IsGap s := by
    intro s hs
    rcases List.mem_pair.1 hs with rfl | rfl <;> exact ⟨by decide, by decide⟩
  have hfactor : ∀ {name value written : String}, Column.validate ⟨name⟩ = .ok () →
      (key name value).print = .ok written → SpellsFactor (.condition (key name value)) written :=
    fun hname ht => .condition hname ht (by simp [Condition.HasEmptyList, key, Condition.ofColumn])
  have hx : SpellsFactor (.condition (key "and" "x")) "and:\"x\"" :=
    hfactor rfl (eq_ok_of_toOption (by decide +kernel))
  have hy : SpellsFactor (.condition (key "or" "y")) "or:\"y\"" :=
    hfactor rfl (eq_ok_of_toOption (by decide +kernel))
  have hz : SpellsFactor (.condition (key "OR" "z")) "OR:\"z\"" :=
    hfactor rfl (eq_ok_of_toOption (by decide +kernel))
  have hv : SpellsFactor (.condition (key "and" "v")) "and:\"v\"" :=
    hfactor rfl (eq_ok_of_toOption (by decide +kernel))
  have hw : SpellsFactor (.condition (key "AND" "w")) "AND:\"w\"" :=
    hfactor rfl (eq_ok_of_toOption (by decide +kernel))
  have hnested : SpellsFilter [[.condition (key "or" "y")], [.condition (key "OR" "z")]]
      "or:\"y\" OR OR:\"z\"" :=
    .more (.one hy) (.word (hgap " " (by simp)) (.inl rfl) (hgap " " (by simp))) (.one (.one hz))
  have hspells : SpellsFilter terms text :=
    .more (.more hx (.comma (s := " ") (t := " ") rfl rfl)
        (.more (.nested hnested) (.gap (hgap " " (by simp))) (.one hv)))
      (.word (hgap "\t" (by simp)) (.inr rfl) (hgap " " (by simp))) (.one (.one hw))
  exact ⟨hspells, parse_spelled hspells⟩

end Query

end MetricQuery
