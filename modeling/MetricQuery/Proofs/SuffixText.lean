import MetricQuery.Proofs.CallSites
import MetricQuery.Proofs.FilterText

/-!
# What follows an operand

The filters and the grouping behind an operand read back, several filters joined into one.

* `Follows`       : what may stand behind an operand;
* `suffix_nested` : filters and a grouping behind parentheses;
* `suffix_call`   : filters and a grouping behind a call.
-/

set_option autoImplicit false

namespace MetricQuery

namespace Grammar

open Scanner Surface Outcome

/-- An operand is followed by nothing, by what closes it, or by the sign of an operation. -/
def Follows (r : List Char) : Prop :=
  r = [] ∨ Closes r ∨ ∃ (op : ArithmeticOp) (s : List Char), r = ' ' :: (op.sign.toList ++ ' ' :: s)

section

variable {r : List Char}

theorem Follows.stops (h : Follows r) {p : Char → Bool} (hcomma : p ',' = false)
    (hparen : p ')' = false) (hspace : p ' ' = false) : Stops p r := by
  rcases h with rfl | h | ⟨op, s, rfl⟩
  · exact stops_nil p
  · exact h.stops hcomma hparen
  · exact stops_cons.2 hspace

theorem Follows.head?_ne (h : Follows r) {c : Char} (hcomma : c ≠ ',') (hparen : c ≠ ')')
    (hspace : c ≠ ' ') : r.head? ≠ some c := by
  rcases h with rfl | h | ⟨op, s, rfl⟩
  · simp
  · exact h.head?_ne hcomma hparen
  · simpa using hspace.symm

theorem Closes.trimStart_eq (h : Closes r) : Text.trimStart r = r :=
  trimStart_of_stops (h.stops (by decide) (by decide))

theorem Follows.groupBy_eq_none (h : Follows r) : groupBy r = none := by
  refine Grammar.groupBy_eq_none ?_
  rcases h with rfl | h | ⟨op, s, rfl⟩
  · simp [Text.trimStart]
  · rw [h.trimStart_eq]
    exact h.head?_ne (by decide) (by decide)
  · rw [trimStart_space]
    cases op <;> exact head?_trimStart_ne (by decide) (by decide) _

/-- The filters behind an operand read back, joined into one. -/
theorem braces_suffix {fs : Option (List Filter)} {braces : String} (hne : fs ≠ some [])
    (hfs : ∀ f ∈ fs.getD [], f.IsNormal) (ht : bracesText (fs.getD []) = .ok braces) :
    ∃ filters : Option TagFilter,
      (∀ s, s.head? ≠ some '\x7b' → optionalBraces (braces.toList ++ s) = some (filters, s)) ∧
      (∀ q : Query, q.filters = none → addFilter filters q = .ok (q.withFilters (unite fs))) ∧
      (braces = "" ∧ filters = none ∧ fs = none ∨ braces.toList.head? = some '\x7b') := by
  cases fs with
  | none =>
    cases ht
    refine ⟨none, fun s hs => optionalBraces_eq_none hs, fun q hq => ?_, .inl ⟨rfl, rfl, rfl⟩⟩
    have hsame : q.withFilters none = q := hq ▸ q.withFilters_filters
    exact congrArg Except.ok hsame.symm
  | some fs =>
    have hne' : fs ≠ [] := fun e => hne (by rw [e])
    obtain ⟨hhead, terms, hreduce, hread⟩ := braces_text hne' hfs ht
    have hunite : unite (some fs) = some [joined .and fs] := by
      match fs, hne' with
      | [f], _ => rfl
      | f :: g :: rest, _ => simp [unite, joined]
    refine ⟨some terms, fun s _ => hread s, fun q hq => ?_, .inr hhead⟩
    unfold addFilter
    dsimp only
    rw [bind_of_ok _ hreduce, hunite]
    unfold prependFilter
    rw [hq]
    rfl

/-- The grouping behind an operand reads back. -/
theorem grouping_suffix {gs : Option (List Column)} {grouping : String} (hne : gs ≠ some [])
    (hgs : ∀ c ∈ gs.getD [], c.IsWritable) (ht : groupByText (gs.getD []) = .ok grouping) :
    ∃ names : Option (List String),
      (∀ r, Follows r → attempt groupBy (grouping.toList ++ r) = some (names, r)) ∧
      (∀ r, Follows r → (grouping.toList ++ r).head? ≠ some '\x7b') ∧
      ∀ q : Query, q.groupby = none → addGroupBy names q = .ok (q.withGroupby gs) := by
  cases gs with
  | none =>
    cases ht
    refine ⟨none, fun r hr => attempt_of_none hr.groupBy_eq_none,
      fun r hr => hr.head?_ne (by decide) (by decide) (by decide), fun q hq => ?_⟩
    have hsame : q.withGroupby none = q := hq ▸ q.withGroupby_groupby
    exact congrArg Except.ok hsame.symm
  | some gs =>
    have hne' : gs ≠ [] := fun e => hne (by rw [e])
    rw [Option.getD_some] at hgs ht
    refine ⟨some (gs.map Column.name), fun r _ => attempt_of_some (groupBy_text hne' hgs ht r),
      fun r _ => ?_, fun q hq => ?_⟩
    · have hspace : grouping.toList.head? = some ' ' := by
        unfold groupByText at ht
        split at ht
        · simp at hne'
        · obtain ⟨names, -, ht⟩ := bind_eq_ok.1 ht
          cases pure_eq_ok.1 ht
          simp
      obtain ⟨w, hw⟩ := List.head?_eq_some_iff.1 hspace
      rw [hw]
      simp
    · unfold addGroupBy
      dsimp only
      rw [bind_of_ok _ (columns_names hgs)]
      unfold prependGroupby
      rw [hq, Option.getD_none, List.append_nil]
      rfl

/-- What follows an operand starts with a brace or a blank and ends with what closes it. -/
theorem suffix_ends {fs : Option (List Filter)} {gs : Option (List Column)} {suffix : String}
    (ht : selectionText fs gs = .ok suffix) :
    suffix.toList = [] ∨ ∃ c w d, suffix.toList = c :: (w ++ [d]) ∧ (c = '\x7b' ∨ c = ' ') ∧
      (d = '\x7d' ∨ d = ')') := by
  obtain ⟨braces, hbraces, ht⟩ := bind_eq_ok.1 ht
  obtain ⟨grouping, hgrouping, ht⟩ := bind_eq_ok.1 ht
  cases pure_eq_ok.1 ht
  have hopen : braces = "" ∨ ∃ w, braces = "\x7b" ++ w ++ "\x7d" := by
    unfold bracesText at hbraces
    split at hbraces
    · cases hbraces
      exact .inl rfl
    · obtain ⟨texts, -, hbraces⟩ := bind_eq_ok.1 hbraces
      cases pure_eq_ok.1 hbraces
      exact .inr ⟨_, rfl⟩
  have hby : grouping = "" ∨ ∃ w, grouping = " by (" ++ w ++ ")" := by
    unfold groupByText at hgrouping
    split at hgrouping
    · cases hgrouping
      exact .inl rfl
    · obtain ⟨names, -, hgrouping⟩ := bind_eq_ok.1 hgrouping
      cases pure_eq_ok.1 hgrouping
      exact .inr ⟨_, rfl⟩
  rcases hopen with rfl | ⟨w, rfl⟩
  · rcases hby with rfl | ⟨v, rfl⟩
    · exact .inl rfl
    · exact .inr ⟨' ', 'b' :: 'y' :: ' ' :: '(' :: v.toList, ')', by simp, .inr rfl, .inr rfl⟩
  · rcases hby with rfl | ⟨v, rfl⟩
    · exact .inr ⟨'\x7b', w.toList, '\x7d', by simp, .inl rfl, .inl rfl⟩
    · exact .inr ⟨'\x7b', w.toList ++ '\x7d' :: ' ' :: 'b' :: 'y' :: ' ' :: '(' :: v.toList, ')',
        by simp, .inl rfl, .inr rfl⟩

/-- No parenthesis stands right behind a call. -/
theorem head?_suffix_ne {fs : Option (List Filter)} {gs : Option (List Column)} {suffix : String}
    (ht : selectionText fs gs = .ok suffix) (hr : r.head? ≠ some '(') :
    (suffix.toList ++ r).head? ≠ some '(' := by
  rcases suffix_ends ht with h | ⟨c, w, d, h, hc, -⟩
  · rw [h]
    exact hr
  · rw [h]
    rcases hc with rfl | rfl <;> simp

/-- **What follows parentheses reads back**: filters and then a grouping. -/
theorem suffix_nested {fs : Option (List Filter)} {gs : Option (List Column)} {suffix : String}
    (h : IsSelection fs gs) (ht : selectionText fs gs = .ok suffix) (hr : Follows r) :
    ∃ filters s names, optionalBraces (suffix.toList ++ r) = some (filters, s) ∧
      attempt groupBy s = some (names, r) ∧
      ∀ q : Query, q.filters = none → q.groupby = none →
        (do
          let q ← addFilter filters q
          addGroupBy names q) = .ok ((q.withFilters (unite fs)).withGroupby gs) := by
  obtain ⟨braces, hbraces, ht⟩ := bind_eq_ok.1 ht
  obtain ⟨grouping, hgrouping, ht⟩ := bind_eq_ok.1 ht
  cases pure_eq_ok.1 ht
  obtain ⟨filters, hfilters, hadd, -⟩ := braces_suffix h.filters_ne h.filters_normal hbraces
  obtain ⟨names, hnames, hhead, hgroup⟩ := grouping_suffix h.groupby_ne h.groupby_writable hgrouping
  refine ⟨filters, grouping.toList ++ r, names, ?_, hnames r hr, fun q hq hg => ?_⟩
  · rw [String.toList_append, List.append_assoc]
    exact hfilters _ (hhead r hr)
  · rw [bind_of_ok _ (hadd q hq)]
    exact hgroup _ (by rw [Query.groupby_withFilters, hg])

/-- **What follows a call reads back.**  A grouping right behind the call belongs to the call. -/
theorem suffix_call {fs : Option (List Filter)} {gs : Option (List Column)} {suffix : String}
    (h : IsSelection fs gs) (ht : selectionText fs gs = .ok suffix) (hr : Follows r) :
    ∃ inner s filters s' names, attempt groupBy (suffix.toList ++ r) = some (inner, s) ∧
      optionalBraces s = some (filters, s') ∧ attempt groupBy s' = some (names, r) ∧
      ∀ q : Query, q.filters = none → q.groupby = none →
        (do
          let q ← addGroupBy inner q
          let q ← addFilter filters q
          addGroupBy names q) = .ok ((q.withFilters (unite fs)).withGroupby gs) := by
  obtain ⟨braces, hbraces, hsel⟩ := bind_eq_ok.1 ht
  obtain ⟨grouping, hgrouping, hsel⟩ := bind_eq_ok.1 hsel
  cases pure_eq_ok.1 hsel
  obtain ⟨_, _, _, hstart⟩ := braces_suffix h.filters_ne h.filters_normal hbraces
  rcases hstart with ⟨rfl, -, rfl⟩ | hhead
  · obtain ⟨names, hnames, -, hgroup⟩ :=
      grouping_suffix h.groupby_ne h.groupby_writable hgrouping
    refine ⟨names, r, none, r, none, ?_,
      optionalBraces_eq_none (hr.head?_ne (by decide) (by decide) (by decide)),
      attempt_of_none hr.groupBy_eq_none, fun q hq hg => ?_⟩
    · rw [String.toList_append]
      exact hnames r hr
    · have hsame : q.withFilters none = q := hq ▸ q.withFilters_filters
      rw [bind_of_ok _ (hgroup q hg)]
      show _ = Except.ok ((q.withFilters none).withGroupby gs)
      rw [hsame]
      rfl
  · obtain ⟨filters, s, names, hfilters, hnames, hadd⟩ := suffix_nested h ht hr
    obtain ⟨w, hw⟩ := List.head?_eq_some_iff.1 hhead
    have hnone : groupBy ((braces ++ grouping).toList ++ r) = none := by
      rw [String.toList_append, hw]
      exact groupBy_eq_none (head?_trimStart_ne (by decide) (by decide) _)
    refine ⟨none, _, filters, s, names, attempt_of_none hnone, hfilters, hnames, fun q hq hg => ?_⟩
    exact hadd q hq hg

end

end Grammar

end MetricQuery
