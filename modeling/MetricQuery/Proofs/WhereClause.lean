import Mathlib.Data.List.Chain
import MetricQuery.Proofs.ClauseScope

/-!
# Filters stay within the scope

The conditions of a query to the store are joined by `AND`, and no filter can take another of them
with it: whatever texts and names the filters hold, each is a part of its own.  Only a comparison
with a column that is itself called `AND` is cut in front of that name, which is then carried over to
the next condition.

* `StoreQuery.scopedParts`       : the conditions of the `WHERE` clause;
* `StoreQuery.parts_where_iff`   : when they are its parts;
* `StoreQuery.uncut_where_iff`   : when no part has an `OR` in the open;
* `Envelope.where_parts`         : the parts of the `WHERE` clause.
-/

set_option autoImplicit false

namespace MetricQuery

open ClauseText Outcome

/-! ## The `WHERE` clause -/

namespace StoreQuery

variable (granularity : UInt32) (q : StoreQuery)

/-- The parts of the `WHERE` clause in front of its last: granularity, metric, the filters of the
query, the scope, and the start of the time range. -/
def leadingParts : List String :=
  [(Condition.ofColumn "granularity" .eq (.int (Int64.ofNat granularity.toNat))).clauseText,
   (Condition.ofColumn "metric_id" .eq (.ofNat q.metricId.toNat)).clauseText] ++
  (q.series.filters.getD []).map Filter.clauseText ++
  [q.scope.filter.clauseText, (timeBound .gte q.start).clauseText]

/-- The parts of the `WHERE` clause, the last of which is the end of the time range. -/
def scopedParts : List String := q.leadingParts granularity ++ [(timeBound .lt q.ending).clauseText]

/-- The clauses in front of the `WHERE` clause. -/
def leadingClauses : List String :=
  ["MATCH (" ++ q.entity ++ ")", "SELECT " ++ q.series.selected.clauseText] ++ q.byClause

/-- The clauses behind the `WHERE` clause. -/
def trailingClauses : List String :=
  (q.rollup.orderText.toList.map fun order => "ORDER BY " ++ order) ++
  (q.limit.toList.map fun n => "LIMIT " ++ digitsOf n.toNat) ++
  (q.offset.toList.map fun n => "OFFSET " ++ digitsOf n.toNat) ++
  (if q.hasTotals then ["TOTALS True"] else [])

variable {granularity q}

theorem whereParts_eq (h : q.rollup.granularity = some granularity) :
    q.whereParts = q.scopedParts granularity := by
  simp [whereParts, scopedParts, leadingParts, h, Filter.clauseTexts_eq]

theorem clauses_eq :
    q.clauses = q.leadingClauses ++
      ("WHERE " ++ Text.join " AND " q.whereParts) :: q.trailingClauses := by
  simp [clauses, leadingClauses, trailingClauses]

/-- The words that the other clauses begin with. -/
def keywords : List String :=
  ["MATCH (", "SELECT ", "BY ", "ORDER BY ", "LIMIT ", "OFFSET ", "TOTALS "]

theorem exists_keyword {clause : String} (h : clause ∈ q.leadingClauses ++ q.trailingClauses) :
    ∃ word ∈ keywords, ∃ rest, clause = word ++ rest := by
  rcases List.mem_append.1 h with h | h
  · rcases List.mem_append.1 h with h | h
    · rcases List.mem_pair.1 h with rfl | rfl
      · exact ⟨"MATCH (", by decide, _, String.append_assoc⟩
      · exact ⟨"SELECT ", by decide, _, rfl⟩
    · unfold byClause at h
      split at h
      · cases h
      · rw [List.mem_singleton.1 h]
        exact ⟨"BY ", by decide, _, rfl⟩
  · rcases List.mem_append.1 h with h | h
    · rcases List.mem_append.1 h with h | h
      · rcases List.mem_append.1 h with h | h
        · obtain ⟨order, -, rfl⟩ := List.mem_map.1 h
          exact ⟨"ORDER BY ", by decide, _, rfl⟩
        · obtain ⟨n, -, rfl⟩ := List.mem_map.1 h
          exact ⟨"LIMIT ", by decide, _, rfl⟩
      · obtain ⟨n, -, rfl⟩ := List.mem_map.1 h
        exact ⟨"OFFSET ", by decide, _, rfl⟩
    · split at h
      · rw [List.mem_singleton.1 h]
        exact ⟨"TOTALS ", by decide, "True", by decide⟩
      · cases h

/-- No other clause is a `WHERE` clause. -/
theorem not_where {clause : String} (h : clause ∈ q.leadingClauses ++ q.trailingClauses) :
    ¬ "WHERE ".toList <+: clause.toList := by
  obtain ⟨word, hword, rest, rfl⟩ := exists_keyword h
  have hhead : ∀ k ∈ keywords, ∃ c w, k.toList = c :: w ∧ 'W' ≠ c := by
    intro k hk
    have hne : k.toList ≠ [] ∧ k.toList.head? ≠ some 'W' := by
      revert k
      decide
    obtain ⟨c, w, hcw⟩ := List.exists_cons_of_ne_nil hne.1
    refine ⟨c, w, hcw, fun hc => ?_⟩
    rw [hcw, ← hc] at hne
    exact hne.2 rfl
  obtain ⟨c, w, hcw, hc⟩ := hhead word hword
  rw [String.toList_append, hcw]
  intro hprefix
  exact hc (List.cons_prefix_cons.1 hprefix).1

/-- A part of the `WHERE` clause is a filter of the query, or whole. -/
theorem filter_or_whole (op : Connective) {p : String} (h : p ∈ q.scopedParts granularity) :
    (∃ f ∈ q.series.filters.getD [], p = f.clauseText) ∨ Whole op p.toList := by
  have hbound : ∀ comparison t, Whole op (timeBound comparison t).clauseText.toList :=
    fun comparison t => Condition.whole_ofColumn rfl
  rcases List.mem_append.1 h with h | h
  · rcases List.mem_append.1 h with h | h
    · rcases List.mem_append.1 h with h | h
      · rcases List.mem_pair.1 h with rfl | rfl
        · exact .inr (Condition.whole_ofColumn rfl)
        · exact .inr (Condition.whole_ofColumn rfl)
      · obtain ⟨f, hf, rfl⟩ := List.mem_map.1 h
        exact .inl ⟨f, hf, rfl⟩
    · rcases List.mem_pair.1 h with rfl | rfl
      · exact .inr (q.scope.whole_carried_filter _ false)
      · exact .inr (hbound .gte q.start)
  · rw [List.mem_singleton.1 h]
    exact .inr (hbound .lt q.ending)

/-- **The conditions are the parts of the `WHERE` clause, exactly if no filter of the query is a
comparison with a column `AND`.** -/
theorem parts_where_iff (h : ∀ f ∈ q.series.filters.getD [], f.validate = .ok ()) :
    parts .and (Text.join " AND " (q.scopedParts granularity)) = q.scopedParts granularity ↔
      ∀ f ∈ q.series.filters.getD [], ¬ f.IsTorn .and := by
  have hlast : Whole .and (timeBound .lt q.ending).clauseText.toList :=
    Condition.whole_ofColumn rfl
  have hleading : ∀ p ∈ q.leadingParts granularity,
      (∃ f ∈ q.series.filters.getD [], p = f.clauseText) ∨ Whole .and p.toList :=
    fun p hp => filter_or_whole .and (List.mem_append_left _ hp)
  have hparts : ∀ p ∈ q.leadingParts granularity, Whole .and p.toList ∨ Torn .and p.toList := by
    intro p hp
    rcases hleading p hp with ⟨f, hf, rfl⟩ | hwhole
    · rcases Filter.whole_or_torn .and (h f hf) with ⟨-, hwhole⟩ | ⟨-, htorn⟩
      · exact .inl hwhole
      · exact .inr htorn
    · exact .inl hwhole
  have hjoin := parts_join_iff hparts hlast
  refine Iff.trans hjoin ⟨fun hall f hf => ?_, fun hall p hp => ?_⟩
  · have hmem : f.clauseText ∈ q.leadingParts granularity := by
      refine List.mem_append_left _ (List.mem_append_right _ ?_)
      exact List.mem_map_of_mem hf
    exact (Filter.whole_iff (h f hf)).1 (hall _ hmem)
  · rcases hleading p hp with ⟨f, hf, rfl⟩ | hwhole
    · exact (Filter.whole_iff (h f hf)).2 (hall f hf)
    · exact hwhole

/-- No part has an `OR` in the open. -/
theorem parts_or_eq (h : ∀ f ∈ q.series.filters.getD [], f.validate = .ok ()) :
    ∀ part ∈ q.scopedParts granularity, parts .or part = [part] := by
  intro part hpart
  have hcut : cut (separator .or) .top 0 part.toList = [part.toList] := by
    rcases filter_or_whole .or hpart with ⟨f, hf, rfl⟩ | hwhole
    · rcases Filter.whole_or_torn .or (h f hf) with ⟨-, hwhole⟩ | ⟨-, htorn⟩
      · exact hwhole.cut_eq
      · exact htorn.cut_eq
    · exact hwhole.cut_eq
  rw [parts, hcut, List.map_singleton, String.ofList_toList]

/-! ### Connectives in the open -/

variable (q) in
/-- What stands behind the filters of a query: the scope and the time range. -/
def scopeText : List Char :=
  q.scope.filter.clauseText.toList ++ (separator .and ++
    ((timeBound .gte q.start).clauseText.toList ++ (separator .and ++
      (timeBound .lt q.ending).clauseText.toList)))

/-- No `OR` stands in the open there, even behind a connective that is carried over. -/
theorem uncut_scopeText (before : Bool) :
    ∀ p ∈ cut (separator .and) .top 0 (carried before ++ q.scopeText), Uncut .or p := by
  have hscope (op : Connective) := q.scope.whole_carried_filter op before
  have hbound (op : Connective) (comparison : Comparison) (t : Instant) :
      Whole op (timeBound comparison t).clauseText.toList := Condition.whole_ofColumn rfl
  rw [scopeText, ← List.append_assoc, (hscope .and).cut_separator,
    (hbound .and .gte q.start).cut_separator, (hbound .and .lt q.ending).cut_eq,
    List.forall_mem_cons, List.forall_mem_cons, List.forall_mem_singleton]
  exact ⟨(hscope .or).cut_eq, (hbound .or .gte q.start).cut_eq, (hbound .or .lt q.ending).cut_eq⟩

/-- Filters in front of a text leave it no `OR` in the open, exactly if none of them is about a column
`OR` and stands behind a torn one. -/
theorem uncut_filters_iff {fs : List Filter} (hfs : ∀ f ∈ fs, f.validate = .ok ()) {z : List Char}
    (hz : ∀ before, ∀ p ∈ cut (separator .and) .top 0 (carried before ++ z), Uncut .or p)
    (before : Bool) :
    (∀ p ∈ cut (separator .and) .top 0 (carried before ++
        (fs.flatMap (fun f => f.clauseText.toList ++ separator .and) ++ z)), Uncut .or p) ↔
      (before = true → ∀ f ∈ fs.head?, ¬ f.IsAbout .or) ∧
        fs.IsChain fun f g => ¬ (f.IsTorn .and ∧ g.IsAbout .or) := by
  induction fs generalizing before with
  | nil => exact iff_of_true (hz before) ⟨fun _ => by simp, .nil⟩
  | cons f fs ih =>
    obtain ⟨hf, hfs⟩ := List.forall_mem_cons.1 hfs
    obtain ⟨ps, after, hcut, hafter, huncut⟩ := Filter.exists_cutsInto hf before
    rw [List.flatMap_cons, List.append_assoc, List.append_assoc, hcut, List.forall_mem_append,
      huncut, ih hfs after, hafter, List.isChain_cons]
    simp only [List.head?_cons, Option.mem_some_iff, forall_eq', not_and]
    exact and_congr_right fun _ => and_congr_left fun _ =>
      ⟨fun hnext g hg htorn => hnext htorn g hg, fun hnext htorn g hg => hnext g hg htorn⟩

/-- **No part of the `WHERE` clause has an `OR` in the open, exactly if no condition on a column `OR`
stands right behind a comparison with a column `AND`.** -/
theorem uncut_where_iff (h : ∀ f ∈ q.series.filters.getD [], f.validate = .ok ()) :
    (∀ part ∈ parts .and (Text.join " AND " (q.scopedParts granularity)), parts .or part = [part]) ↔
      (q.series.filters.getD []).IsChain fun f g => ¬ (f.IsTorn .and ∧ g.IsAbout .or) := by
  let first := (Condition.ofColumn "granularity" .eq
    (.int (Int64.ofNat granularity.toNat))).clauseText.toList
  let second := (Condition.ofColumn "metric_id" .eq (.ofNat q.metricId.toNat)).clauseText.toList
  have hfirst (op : Connective) : Whole op first := Condition.whole_ofColumn rfl
  have hsecond (op : Connective) : Whole op second := Condition.whole_ofColumn rfl
  have htext : (Text.join " AND " (q.scopedParts granularity)).toList =
      first ++ (separator .and ++ (second ++ (separator .and ++ (carried false ++
        ((q.series.filters.getD []).flatMap (fun f => f.clauseText.toList ++ separator .and) ++
          q.scopeText))))) :=
    (toList_join_concat .and _ _).trans
      (by simp [first, second, leadingParts, scopeText, carried, List.flatMap_map])
  rw [forall_parts_iff, htext, (hfirst .and).cut_separator, (hsecond .and).cut_separator,
    List.forall_mem_cons, List.forall_mem_cons, uncut_filters_iff h uncut_scopeText]
  exact ⟨fun hall => hall.2.2.2, fun hall =>
    ⟨(hfirst .or).cut_eq, (hsecond .or).cut_eq, by simp, hall⟩⟩

end StoreQuery

/-- The filters of a series that passes its check pass their own. -/
theorem Timeseries.validate_filters {t : Timeseries} (h : t.validate = .ok ()) :
    ∀ f ∈ t.filters.getD [], f.validate = .ok () :=
  (validateSelection_eq_ok.1 (validate_eq_ok.1 h).2.2.2.2).1

namespace Envelope

/-- **Filters stay within the scope.**  Where an envelope passes its check and is written as
clauses, one of them is the `WHERE` clause.  Between the connectives `AND` in the open it has the
granularity, the metric, each filter of the query, the scope and the time range, each as a part of
its own, exactly if no filter is a comparison with a column `AND`; and no part has an `OR` in the
open, exactly if no such filter has a condition on a column `OR` right behind it.  None of those
texts has an `OR` in the open by itself. -/
theorem where_parts {m : Envelope} {layout : Layout} {text : String} (hm : m.validate = .ok ())
    (ht : m.clauseText layout = .ok text) :
    ∃ q granularity before content after, m.storeQuery = .ok q ∧
      q.rollup.granularity = some granularity ∧
      text = Text.join layout.separator (before ++ ("WHERE " ++ content) :: after) ∧
      (∀ clause ∈ before ++ after, ¬ "WHERE ".toList <+: clause.toList) ∧
      (parts .and content = q.scopedParts granularity ↔
        ∀ f ∈ q.series.filters.getD [], ¬ f.IsTorn .and) ∧
      ((∀ part ∈ parts .and content, parts .or part = [part]) ↔
        (q.series.filters.getD []).IsChain fun f g => ¬ (f.IsTorn .and ∧ g.IsAbout .or)) ∧
      ∀ part ∈ q.scopedParts granularity, parts .or part = [part] := by
  obtain ⟨q, hq, ht⟩ := bind_eq_ok.1 ht
  cases pure_eq_ok.1 ht
  obtain ⟨root, start, ending, rollup, scope, granularity, hparts, hvalid, hg⟩ := exists_parts hm
  have hstored : m.query = some (.timeseries q.series) ∧ q.rollup = rollup := by
    rw [hparts.storeQuery_eq] at hq
    rw [hparts.query]
    split at hq
    · cases hq
    · split at hq
      · cases hq
      · cases hq
      · cases hq
        exact ⟨rfl, rfl⟩
  have hroot : root = .timeseries q.series := Option.some.inj (hparts.query.symm.trans hstored.1)
  have hfilters : ∀ f ∈ q.series.filters.getD [], f.validate = .ok () := by
    rw [hroot] at hvalid
    exact Timeseries.validate_filters hvalid
  have hgranularity : q.rollup.granularity = some granularity := by rw [hstored.2, hg]
  have hwhere := StoreQuery.whereParts_eq hgranularity
  refine ⟨q, granularity, q.leadingClauses, Text.join " AND " q.whereParts, q.trailingClauses, hq,
    hgranularity, ?_, fun clause => StoreQuery.not_where, ?_, ?_, StoreQuery.parts_or_eq hfilters⟩
  · rw [StoreQuery.text, StoreQuery.clauses_eq]
  · rw [hwhere]
    exact StoreQuery.parts_where_iff hfilters
  · rw [hwhere]
    exact StoreQuery.uncut_where_iff hfilters

/-- A value, a column and an alias that look like the ends of a literal, a column and a condition,
and a group within a group. -/
theorem where_parts_quoted :
    let metric : Metric := ⟨some "a", none, some 7, some "e"⟩
    let value := Filter.condition (.ofColumn "k[' AND x]" .eq (.string "') OR (1 = 1 AND \\"))
    let call := Filter.condition
      ⟨.call "f" (some [.string "]"]) [.column ⟨"AND"⟩] (some "AND"), .isNotNull, none⟩
    let nested := Filter.group .or [value, .group .and [call, value]]
    let m : Envelope := { empty with
      query := some (.timeseries ⟨metric, "sum", none, some [value, nested, call], none⟩)
      start := some ⟨0, 0⟩
      ending := some ⟨60, 0⟩
      rollup := some { Rollup.ofInterval 60 with granularity := some 60 }
      scope := some ⟨[1], [2], some "it's"⟩ }
    ∃ text, m.validate = .ok () ∧ m.clauseText .oneLine = .ok text ∧
      ∃ q granularity before content after, m.storeQuery = .ok q ∧
        q.rollup.granularity = some granularity ∧
        text = Text.join Layout.oneLine.separator (before ++ ("WHERE " ++ content) :: after) ∧
        (∀ clause ∈ before ++ after, ¬ "WHERE ".toList <+: clause.toList) ∧
        parts .and content = q.scopedParts granularity ∧
        (∀ part ∈ parts .and content, parts .or part = [part]) ∧
        ∀ part ∈ q.scopedParts granularity, parts .or part = [part] := by
  intro metric value call nested m
  have hvalid : m.validate = .ok () := by rfl
  obtain ⟨text, ht⟩ := exists_of_isSome (x := m.clauseText .oneLine) (by rfl)
  obtain ⟨q, granularity, before, content, after, hq, hg, htext, hothers, hparts, hor, hprinted⟩ :=
    where_parts hvalid ht
  have hnone : ∀ f ∈ [value, nested, call], ¬ f.IsTorn .and := by
    rintro f hf ⟨c, rfl, hc⟩
    have hmem : c = ⟨.column ⟨"k[' AND x]"⟩, .eq, some (.literal (.string "') OR (1 = 1 AND \\"))⟩ ∨
        c = ⟨.call "f" (some [.string "]"]) [.column ⟨"AND"⟩] (some "AND"), .isNotNull, none⟩ := by
      simpa [value, call, nested, Condition.ofColumn] using hf
    rcases hmem with rfl | rfl <;> cases hc
  refine ⟨text, hvalid, ht, q, granularity, before, content, after, hq, hg, htext, hothers,
    hparts.2 ?_, hor.2 ?_, hprinted⟩
  · cases hq
    exact hnone
  · cases hq
    exact .cons_cons (fun h => hnone value (by simp) h.1)
      (.cons_cons (fun h => hnone nested (by simp) h.1) (.singleton _))

/-- A comparison with a column `AND` is cut in front of it, and the connective behind it is taken
with the next condition, which then has an `OR` in the open if it is about a column `OR`. -/
theorem where_parts_torn :
    let metric : Metric := ⟨some "a", none, some 7, some "e"⟩
    let torn := Filter.condition ⟨.column ⟨"k"⟩, .eq, some (.column ⟨"AND"⟩)⟩
    let next := Filter.condition (.ofColumn "OR" .eq (.int 1))
    let m : Envelope := { empty with
      query := some (.timeseries ⟨metric, "sum", none, some [torn, next], none⟩)
      start := some ⟨0, 0⟩
      ending := some ⟨60, 0⟩
      rollup := some { Rollup.ofTotals true with granularity := some 60 }
      scope := some ⟨[1], [2], none⟩ }
    ∃ q content, m.validate = .ok () ∧ m.storeQuery = .ok q ∧
      m.clauseText .lineEach = .ok (Text.join "\n" ["MATCH (e)",
        "SELECT sum(value) AS \x60aggregate_value\x60", "WHERE " ++ content]) ∧
      parts .and content ≠ q.scopedParts 60 ∧
      ∃ part ∈ parts .and content, parts .or part ≠ [part] := by
  intro metric torn next m
  let q : StoreQuery :=
    ⟨⟨metric, "sum", none, some [torn, next], none⟩,
      { Rollup.ofTotals true with granularity := some 60 }, ⟨[1], [2], none⟩, ⟨0, 0⟩, ⟨60, 0⟩, "e",
      7, none, none⟩
  have hfilters : ∀ f ∈ q.series.filters.getD [], f.validate = .ok () := by
    intro f hf
    rcases List.mem_pair.1 hf with rfl | rfl <;> rfl
  have htorn : torn.IsTorn .and := ⟨_, rfl, rfl⟩
  refine ⟨q, Text.join " AND " (q.scopedParts 60), by rfl, by rfl, ?_, ?_, ?_⟩
  · have hclauses := StoreQuery.clauses_eq (q := q)
    have hwhere : q.whereParts = q.scopedParts 60 := StoreQuery.whereParts_eq rfl
    rw [hwhere] at hclauses
    exact congrArg (fun clauses => Except.ok (Text.join "\n" clauses)) hclauses
  · intro heq
    exact (StoreQuery.parts_where_iff hfilters).1 heq torn (by simp [q]) htorn
  · by_contra hnone
    have hall : ∀ part ∈ parts .and (Text.join " AND " (q.scopedParts 60)),
        parts .or part = [part] := by simpa using hnone
    have hchain := (StoreQuery.uncut_where_iff hfilters).1 hall
    exact (List.isChain_pair.1 hchain) ⟨htorn, _, rfl, rfl⟩

end Envelope

end MetricQuery
