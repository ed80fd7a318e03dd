import MetricQuery.Proofs.Checks
import MetricQuery.Proofs.ListText
import MetricQuery.Proofs.Outputs

/-!
# When collapsing keeps a query valid

A group of alternatives collapses to one array of its values.  Each of the values passes its check,
but an array has to be of one family, and the values of a group need not be.

* `Filter.IsChoice`            : the groups that collapse, with their side and their values;
* `Filter.collapse?_eq_some`   : a group collapses exactly if it is such a choice;
* `Filter.IsMixed`             : a choice between values of several families;
* `Filter.validate_collapse_iff` : a filter stays valid exactly if it is not mixed;
* `Query.validate_collapse_iff`  : so does a query, and a mixed one is refused for its array;
* `Filter.not_isMixed_of_print`  : a choice that is written in the language is not mixed;
* `Envelope.collapse_validity`   : which outputs hold a query that is still valid.
-/

set_option autoImplicit false

namespace MetricQuery

open Outcome

namespace Filter

/-! ## Choices -/

/-- The equality of a side with a literal. -/
def equality (lhs : Expr) (value : Literal) : Filter :=
  .condition ⟨lhs, .eq, some (.literal value)⟩

/-- A choice between values of one side: alternatives each of which is an equality with that side,
whatever its aliases are called.  The first names the side. -/
inductive IsChoice : Filter → Expr → List Literal → Prop where
  | mk {lhs : Expr} {value : Literal} {others : List (Expr × Literal)}
      (h : ∀ other ∈ others, lhs.same other.1 = true) :
      IsChoice (.group .or (equality lhs value :: others.map fun other =>
        equality other.1 other.2)) lhs (value :: others.map Prod.snd)

theorem equality?_equality (lhs : Expr) (value : Literal) :
    (equality lhs value).equality? = some (lhs, value) := rfl

theorem valuesOf?_eq_some {lhs : Expr} {fs : List Filter} {values : List Literal} :
    valuesOf? lhs fs = some values ↔
      ∃ others : List (Expr × Literal), (∀ other ∈ others, lhs.same other.1 = true) ∧
        fs = others.map (fun other => equality other.1 other.2) ∧
        values = others.map Prod.snd := by
  constructor
  · intro h
    induction fs generalizing values with
    | nil =>
      cases h
      exact ⟨[], by simp, rfl, rfl⟩
    | cons f fs ih =>
      rw [valuesOf?] at h
      obtain ⟨⟨side, v⟩, hf, h⟩ := Option.bind_eq_some_iff.1 h
      dsimp only at h
      split at h
      · rename_i hsame
        obtain ⟨rest, hrest, h⟩ := Option.bind_eq_some_iff.1 h
        cases h
        obtain ⟨others, hothers, rfl, rfl⟩ := ih hrest
        refine ⟨(side, v) :: others, List.forall_mem_cons.2 ⟨hsame, hothers⟩, ?_, rfl⟩
        rw [equality?_eq_some hf]
        rfl
      · cases h
  · rintro ⟨others, h, rfl, rfl⟩
    induction others with
    | nil => rfl
    | cons other others ih =>
      obtain ⟨hsame, hothers⟩ := List.forall_mem_cons.1 h
      rw [List.map_cons, valuesOf?, equality?_equality, ih hothers]
      simp [hsame]

/-- **A group collapses exactly if it is a choice.**  It becomes the condition that its side is one
of the values. -/
theorem collapse?_eq_some {f g : Filter} :
    f.collapse? = some g ↔ ∃ lhs values, f.IsChoice lhs values ∧
      g = .condition ⟨lhs, .isIn, some (.literal (.array values))⟩ := by
  constructor
  · intro h
    unfold collapse? at h
    split at h
    · obtain ⟨⟨lhs, value⟩, hfirst, h⟩ := Option.bind_eq_some_iff.1 h
      obtain ⟨values, hvalues, h⟩ := Option.bind_eq_some_iff.1 h
      cases h
      obtain ⟨others, hothers, rfl, rfl⟩ := valuesOf?_eq_some.1 hvalues
      rw [equality?_eq_some hfirst]
      exact ⟨lhs, _, .mk hothers, rfl⟩
    · cases h
  · rintro ⟨lhs, values, ⟨hothers⟩, rfl⟩
    rw [collapse?, equality?_equality]
    simp [valuesOf?_eq_some.2 ⟨_, hothers, rfl, rfl⟩]

/-- The side of a choice that passes its check passes, and so does each value. -/
theorem IsChoice.validate_parts {f : Filter} {lhs : Expr} {values : List Literal}
    (h : f.IsChoice lhs values) (hvalid : f.validate = .ok ()) :
    (∀ v, lhs ≠ .literal v) ∧ lhs.validate = .ok () ∧ ∀ v ∈ values, v.validate = .ok () := by
  obtain ⟨hothers⟩ := h
  obtain ⟨-, hmembers⟩ := validate_group_eq_ok.1 hvalid
  obtain ⟨hfirst, hrest⟩ := List.forall_mem_cons.1 hmembers
  have hparts {side : Expr} {v : Literal} (h : (equality side v).validate = .ok ()) :
      (∀ v, side ≠ .literal v) ∧ side.validate = .ok () ∧ v.validate = .ok () := by
    rw [equality, validate] at h
    obtain ⟨hside, hlhs, -, hrhs⟩ := Condition.validate_eq_ok.1 h
    have hv := hrhs _ rfl
    rw [Expr.validate] at hv
    exact ⟨hside, hlhs, hv⟩
  refine ⟨(hparts hfirst).1, (hparts hfirst).2.1, List.forall_mem_cons.2
    ⟨(hparts hfirst).2.2, fun v hv => ?_⟩⟩
  obtain ⟨other, hother, rfl⟩ := List.mem_map.1 hv
  exact (hparts (hrest _ (List.mem_map_of_mem hother))).2.2

/-! ## Choices between values of several families -/

/-- A choice between values that are not of one family. -/
def IsMixed (f : Filter) : Prop :=
  ∃ lhs values, f.IsChoice lhs values ∧ ¬ Literal.AreOneFamily values

/-- Two values of different families make a mixed choice. -/
theorem isMixed_pair (name : String) {v w : Literal} {a b : Family} (hv : v.family? = some a)
    (hw : w.family? = some b) (hne : a ≠ b) :
    (group .or [.condition (.ofColumn name .eq v), .condition (.ofColumn name .eq w)]).IsMixed := by
  have hothers : ∀ other ∈ [(Expr.column ⟨name⟩, w)], (Expr.column ⟨name⟩).same other.1 = true := by
    intro other hother
    rw [List.mem_singleton.1 hother, Expr.same]
    exact beq_self_eq_true _
  refine ⟨.column ⟨name⟩, [v, w], .mk hothers, ?_⟩
  rintro ⟨family, hfamily⟩
  apply hne
  calc
    a = family := hfamily v (by simp) a hv
    _ = b := (hfamily w (by simp) b hw).symm

/-- Of a condition that a side is one of the values, the check has only the array left to look
at. -/
theorem validate_isIn {lhs : Expr} {v : Literal} (hside : ∀ v, lhs ≠ .literal v)
    (hlhs : lhs.validate = .ok ()) :
    (Filter.condition ⟨lhs, .isIn, some (.literal v)⟩).validate = v.validate := by
  rw [validate]
  cases lhs with
  | literal v => exact absurd rfl (hside v)
  | _ =>
    rw [Condition.validate]
    dsimp only
    rw [bind_of_ok _ hlhs]
    show (Expr.literal v).validate = v.validate
    rw [Expr.validate]

variable {f : Filter}

/-- **A filter stays valid exactly if it is not mixed**, and a mixed one is refused for its
array. -/
theorem validate_collapse (h : f.validate = .ok ()) :
    (¬ f.IsMixed ∧ f.collapse.validate = .ok ()) ∨
      f.IsMixed ∧ f.collapse.validate = .error .mixedArray := by
  unfold collapse
  cases hcollapse : f.collapse? with
  | none =>
    refine .inl ⟨?_, h⟩
    rintro ⟨lhs, values, hchoice, -⟩
    rw [collapse?_eq_some.2 ⟨lhs, values, hchoice, rfl⟩] at hcollapse
    cases hcollapse
  | some g =>
    obtain ⟨lhs, values, hchoice, rfl⟩ := collapse?_eq_some.1 hcollapse
    obtain ⟨hside, hlhs, hvalues⟩ := hchoice.validate_parts h
    rw [Option.getD_some, validate_isIn hside hlhs]
    by_cases hfamily : Literal.AreOneFamily values
    · refine .inl ⟨?_, Literal.validate_array_eq_ok.2 ⟨hvalues, hfamily⟩⟩
      rintro ⟨lhs', values', hchoice', hnot⟩
      have hsame := collapse?_eq_some.2 ⟨lhs', values', hchoice', rfl⟩
      rw [hcollapse] at hsame
      cases hsame
      exact hnot hfamily
    · refine .inr ⟨⟨lhs, values, hchoice, hfamily⟩, ?_⟩
      cases hvalid : (Literal.array values).validate with
      | ok u => exact absurd (Literal.validate_array_eq_ok.1 hvalid).2 hfamily
      | error cause =>
        rw [Literal.validate] at hvalid
        rw [Literal.validateArray_eq_error hvalues hvalid]

theorem validate_collapse_iff (h : f.validate = .ok ()) :
    f.collapse.validate = .ok () ↔ ¬ f.IsMixed := by
  rcases validate_collapse h with ⟨hnot, hok⟩ | ⟨hmixed, herror⟩
  · exact iff_of_true hok hnot
  · refine iff_of_false (fun hok => ?_) (not_not.2 hmixed)
    rw [herror] at hok
    cases hok

/-- A list of filters stays valid exactly if none of them is mixed. -/
theorem forall_collapse_iff {fs : List Filter} (h : ∀ f ∈ fs, f.validate = .ok ()) :
    (∀ g ∈ fs.map collapse, g.validate = .ok ()) ↔ ∀ f ∈ fs, ¬ f.IsMixed := by
  rw [List.forall_mem_map]
  exact forall₂_congr fun f hf => validate_collapse_iff (h f hf)

/-- A list with a mixed filter is refused for its array. -/
theorem validateAll_collapse_eq_error {fs : List Filter} (h : ∀ f ∈ fs, f.validate = .ok ())
    (hmixed : ∃ f ∈ fs, f.IsMixed) : validateAll (fs.map collapse) = .error .mixedArray := by
  induction fs with
  | nil => simp at hmixed
  | cons f fs ih =>
    obtain ⟨hf, hfs⟩ := List.forall_mem_cons.1 h
    rw [List.map_cons, validateAll]
    rcases validate_collapse hf with ⟨hnot, hok⟩ | ⟨-, herror⟩
    · obtain ⟨f', hf', hmixed'⟩ := hmixed
      rcases List.mem_cons.1 hf' with rfl | hf'
      · exact absurd hmixed' hnot
      · rw [bind_of_ok _ hok]
        exact ih hfs ⟨f', hf', hmixed'⟩
    · rw [herror]
      rfl

/-! ## Choices that are written -/

/-- **A choice that is written in the language is not mixed**: a list is one of texts. -/
theorem not_isMixed_of_print {text : String} (h : f.collapse.print = .ok text) : ¬ f.IsMixed := by
  rintro ⟨lhs, values, hchoice, hnot⟩
  have hcollapse := collapse?_eq_some.2 ⟨lhs, values, hchoice, rfl⟩
  rw [collapse, hcollapse, Option.getD_some, print] at h
  have hlist : ∃ list, (Literal.array values).tagList = .ok list := by
    cases lhs with
    | column column =>
      obtain ⟨key, -, h⟩ := bind_eq_ok.1 h
      obtain ⟨found, hfound, -⟩ := bind_eq_ok.1 h
      obtain ⟨list, hlist, -⟩ := bind_eq_ok.1 hfound
      exact ⟨list, hlist⟩
    | _ => cases h
  obtain ⟨list, hlist⟩ := hlist
  obtain ⟨strings, hvalues | hvalues, -⟩ := Literal.exists_tagList hlist
  · cases hvalues
    apply hnot
    refine ⟨.string, fun v hv => ?_⟩
    obtain ⟨s, -, rfl⟩ := List.mem_map.1 hv
    rintro own ⟨⟩
    rfl
  · cases hvalues

end Filter

/-! ## Queries -/

namespace Query

variable {q : Query}

/-- The filters at the root and the grouping of a valid query pass their checks. -/
theorem validate_selection (h : q.validate = .ok ()) :
    (∀ f ∈ q.filters.getD [], f.validate = .ok ()) ∧
      ∀ c ∈ q.groupby.getD [], c.validate = .ok () := by
  cases q with
  | timeseries t => exact validateSelection_eq_ok.1 (Timeseries.validate_eq_ok.1 h).2.2.2.2
  | formula f => exact validateSelection_eq_ok.1 (Formula.validate_eq_ok.1 h).2.2

/-- Of a valid query with other filters, the check has only these left to look at. -/
theorem validate_withFilters (h : q.validate = .ok ()) (filters : Option (List Filter)) :
    (q.withFilters filters).validate = Filter.validateAll (filters.getD []) := by
  have hgrouping : Invalid.checkAll Column.validate (q.groupby.getD []) = .ok () :=
    Invalid.checkAll_eq_ok_iff.2 (validate_selection h).2
  have hselection : validateSelection filters q.groupby = Filter.validateAll (filters.getD []) := by
    rw [validateSelection, hgrouping]
    cases Filter.validateAll (filters.getD []) <;> rfl
  rw [← hselection]
  cases q with
  | timeseries t =>
    obtain ⟨hmetric, hagg, hempty, hparameters, -⟩ := Timeseries.validate_eq_ok.1 h
    exact Timeseries.validate_eq_selection (t := { t with filters }) hmetric hagg hempty hparameters
  | formula f =>
    obtain ⟨hhead, hoperands, -⟩ := Formula.validate_eq_ok.1 h
    exact Formula.validate_eq_selection (f := { f with filters }) hhead hoperands

theorem validate_collapse (h : q.validate = .ok ()) :
    q.collapse.validate = Filter.validateAll ((q.filters.getD []).map Filter.collapse) := by
  rw [collapse_eq, validate_withFilters h, collapsedFilters_eq]
  cases q.filters <;> rfl

/-- **A query stays valid exactly if no filter at its root is mixed.** -/
theorem validate_collapse_iff (h : q.validate = .ok ()) :
    q.collapse.validate = .ok () ↔ ∀ f ∈ q.filters.getD [], ¬ f.IsMixed := by
  rw [validate_collapse h, Filter.validateAll_eq_ok,
    Filter.forall_collapse_iff (validate_selection h).1]

theorem validate_collapse_eq_error (h : q.validate = .ok ())
    (hmixed : ∃ f ∈ q.filters.getD [], f.IsMixed) :
    q.collapse.validate = .error .mixedArray := by
  rw [validate_collapse h, Filter.validateAll_collapse_eq_error (validate_selection h).1 hmixed]

/-- Every filter at the root of a query that can be written can be written. -/
theorem exists_print_filter {text : String} (h : q.print = .ok text) :
    ∀ f ∈ q.filters.getD [], ∃ text', f.print = .ok text' := by
  have hbraces : ∃ braces, bracesText (q.filters.getD []) = .ok braces := by
    cases q with
    | timeseries t =>
      have ht : t.print = .ok text := h
      obtain ⟨head, -, ht⟩ := bind_eq_ok.1 ht
      obtain ⟨selection, hselection, -⟩ := bind_eq_ok.1 ht
      obtain ⟨braces, hbraces, -⟩ := bind_eq_ok.1 hselection
      exact ⟨braces, hbraces⟩
    | formula f =>
      have hf : f.print = .ok text := h
      rw [Formula.print_eq] at hf
      obtain ⟨texts, -, hf⟩ := bind_eq_ok.1 hf
      obtain ⟨selection, hselection, -⟩ := bind_eq_ok.1 hf
      obtain ⟨braces, hbraces, -⟩ := bind_eq_ok.1 hselection
      exact ⟨braces, hbraces⟩
  obtain ⟨braces, hbraces⟩ := hbraces
  intro f hf
  cases hfs : q.filters.getD [] with
  | nil =>
    rw [hfs] at hf
    cases hf
  | cons first rest =>
    rw [hfs] at hf hbraces
    obtain ⟨texts, htexts, -⟩ := bind_eq_ok.1 hbraces
    rw [Filter.printAll_eq] at htexts
    exact exists_ok_of_mem htexts hf

/-- No filter is mixed in a query that can be written once it is rewritten. -/
theorem not_isMixed_of_print {text : String} (h : q.collapse.print = .ok text) :
    ∀ f ∈ q.filters.getD [], ¬ f.IsMixed := by
  intro f hf
  have hmem : f.collapse ∈ q.collapse.filters.getD [] := by
    rw [collapse_eq, filters_withFilters, collapsedFilters_eq]
    cases hfs : q.filters with
    | none =>
      rw [hfs] at hf
      cases hf
    | some fs =>
      rw [hfs] at hf
      exact List.mem_map_of_mem hf
  obtain ⟨text', htext'⟩ := exists_print_filter h f.collapse hmem
  exact Filter.not_isMixed_of_print htext'

end Query

/-! ## Envelopes -/

namespace Envelope

variable {m : Envelope} {q : Query}

/-- Of a valid envelope with its query rewritten, the check has only the query left to look at. -/
theorem validate_collapse (h : m.validate = .ok ()) (hq : m.query = some q) :
    m.collapse.validate = QueryError.ofCheck q.collapse.validate := by
  unfold validate at h ⊢
  obtain ⟨_, -, h⟩ := bind_eq_ok.1 h
  obtain ⟨_, -, h⟩ := bind_eq_ok.1 h
  have hcollapse : QueryError.ofRefusal (Part.require .query m.collapse.query) =
      .ok q.collapse := by
    rw [collapse, hq]
    rfl
  rw [bind_of_ok _ hcollapse]
  cases hvalid : QueryError.ofCheck q.collapse.validate with
  | error e => rfl
  | ok u => exact h

theorem validate_query (h : m.validate = .ok ()) (hq : m.query = some q) :
    q.validate = .ok () := by
  obtain ⟨q', _, _, _, _, _, hparts, hvalid, -⟩ := exists_parts h
  cases Option.some.inj (hparts.query.symm.trans hq)
  exact hvalid

/-- A query that is written in its payload is not mixed. -/
theorem not_isMixed_of_serialize (h : m.validate = .ok ()) (hq : m.query = some q) {p : Payload}
    (hp : m.serialize = .ok p) : ∀ f ∈ q.filters.getD [], ¬ f.IsMixed := by
  obtain ⟨q', _, _, _, _, _, hparts, -, -⟩ := exists_parts h
  cases Option.some.inj (hparts.query.symm.trans hq)
  rw [serialize, bind_of_ok _ h, QueryError.ofRefusal_eq_ok, hparts.collapse.payload_eq] at hp
  obtain ⟨text, htext, -⟩ := bind_eq_ok.1 hp
  exact Query.not_isMixed_of_print htext

/-- **Collapsing keeps filters valid, except for choices between values of several families.**  A
list of valid filters is rewritten to valid ones exactly if none of them is mixed.  A valid envelope
stays valid exactly if no filter at the root of its query is mixed, and is else refused for its
array.  A payload only holds a query that is still valid; clauses are written in any case. -/
theorem collapse_validity (fs : List Filter) (m : Envelope) :
    ((∀ f ∈ fs, f.validate = .ok ()) → ∀ out, Filter.collapseAll? fs = some out →
      ((∀ g ∈ out, g.validate = .ok ()) ↔ ∀ f ∈ fs, ¬ f.IsMixed)) ∧
    ∀ q, m.validate = .ok () → m.query = some q →
      (m.collapse.validate = .ok () ↔ ∀ f ∈ q.filters.getD [], ¬ f.IsMixed) ∧
      ((∃ f ∈ q.filters.getD [], f.IsMixed) →
        m.collapse.validate = .error (.invalid .mixedArray)) ∧
      (∀ p, m.serialize = .ok p → m.collapse.validate = .ok ()) ∧
      ((∃ text, m.serializeClauses = .ok text) ↔ m.IsStored) := by
  constructor
  · intro hvalid out hout
    have hmap := Filter.collapseAll?_getD fs
    rw [hout, Option.getD_some] at hmap
    rw [hmap]
    exact Filter.forall_collapse_iff hvalid
  · intro q hvalid hq
    have hquery := validate_query hvalid hq
    have hiff : m.collapse.validate = .ok () ↔ ∀ f ∈ q.filters.getD [], ¬ f.IsMixed := by
      rw [validate_collapse hvalid hq, QueryError.ofCheck_eq_ok, Query.validate_collapse_iff hquery]
    refine ⟨hiff, fun hmixed => ?_, fun p hp => ?_, ?_⟩
    · rw [validate_collapse hvalid hq, Query.validate_collapse_eq_error hquery hmixed]
      rfl
    · exact hiff.2 (not_isMixed_of_serialize hvalid hq hp)
    · obtain ⟨_, _, _, _, _, _, hparts, -, -⟩ := exists_parts hvalid
      rw [serializeClauses, bind_of_ok _ hvalid]
      simp only [QueryError.ofRefusal_eq_ok]
      rw [hparts.collapse.exists_clauseText_iff .oneLine, isStored_collapse]

/-- A number or a text: each alternative is valid, but the two are no array. -/
theorem collapse_validity_mixed :
    let alternatives := Filter.group .or [.condition (.ofColumn "k" .eq (.int 1)),
      .condition (.ofColumn "k" .eq (.string "a"))]
    let m : Envelope := { empty with
      query := some (.timeseries
        ⟨⟨some "a", none, some 7, some "e"⟩, "sum", none, some [alternatives], none⟩)
      start := some ⟨0, 0⟩
      ending := some ⟨60, 0⟩
      rollup := some { Rollup.ofInterval 60 with granularity := some 60 }
      scope := some ⟨[1], [2], none⟩ }
    alternatives.validate = .ok () ∧ alternatives.IsMixed ∧
      (∃ out, Filter.collapseAll? [alternatives] = some out ∧ ¬ ∀ g ∈ out, g.validate = .ok ()) ∧
      m.validate = .ok () ∧ m.collapse.validate = .error (.invalid .mixedArray) ∧
      ∃ text, m.serializeClauses = .ok text := by
  intro alternatives m
  have hvalid : m.validate = .ok () := by rfl
  have halternatives : alternatives.validate = .ok () := by rfl
  have hmixed : alternatives.IsMixed := Filter.isMixed_pair "k" rfl rfl (by decide)
  obtain ⟨hlist, henvelope⟩ := collapse_validity [alternatives] m
  obtain ⟨-, hrefused, -, hclauses⟩ := henvelope _ hvalid rfl
  refine ⟨halternatives, hmixed, ⟨[alternatives.collapse], by rfl, fun hall => ?_⟩, hvalid,
    hrefused ⟨alternatives, List.mem_singleton_self _, hmixed⟩, hclauses.2 ⟨_, _, _, rfl, rfl, rfl⟩⟩
  have hall' : ∀ f ∈ [alternatives], f.validate = .ok () := by
    intro f hf
    rw [List.mem_singleton.1 hf]
    exact halternatives
  have hnone := (hlist hall' [alternatives.collapse] rfl).1 hall
  exact hnone alternatives (List.mem_singleton_self _) hmixed

end Envelope

end MetricQuery
