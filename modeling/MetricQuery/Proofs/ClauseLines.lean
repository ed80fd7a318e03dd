import MetricQuery.Proofs.ClauseIds

/-!
# Clauses and lines

With a line to each clause, the lines of the text are the clauses, and joined by blanks they are the
text on one line.  Line breaks within literals are escaped.  The names of entities, aggregates and
columns are written as they are, and nothing but a line break in one of these comes between a clause
and its line.

* `HasBreak`                            : texts with a line break;
* `Expr.hasBreak_clauseText`, `Filter.hasBreak_clauseText` : terms have one exactly if a column does;
* `StoreQuery.names`                    : what a query writes as it is;
* `StoreQuery.anyBreak_clauses`         : a clause has a line break exactly if one of these has;
* `StoreQuery.headings`                 : the words that the clauses begin with;
* `lines`, `lines_join_iff`             : the lines of texts with line breaks between them;
* `Envelope.clauseText_lines`           : what the lines of an envelope are.
-/

set_option autoImplicit false

namespace MetricQuery

open Outcome

/-! ## Line breaks -/

/-- A line break is in the text. -/
def HasBreak (s : String) : Prop := '\n' ∈ s.toList

instance (s : String) : Decidable (HasBreak s) := inferInstanceAs (Decidable (_ ∈ _))

/-- A line break is in one of the texts. -/
def AnyBreak (texts : List String) : Prop := ∃ t ∈ texts, HasBreak t

instance (texts : List String) : Decidable (AnyBreak texts) :=
  inferInstanceAs (Decidable (∃ t ∈ texts, HasBreak t))

section

variable {s t sep : String} {texts texts' : List String}

@[simp] theorem hasBreak_append : HasBreak (s ++ t) ↔ HasBreak s ∨ HasBreak t := by
  simp [HasBreak]

@[simp] theorem anyBreak_nil : ¬ AnyBreak [] := by simp [AnyBreak]

@[simp] theorem anyBreak_cons : AnyBreak (t :: texts) ↔ HasBreak t ∨ AnyBreak texts := by
  simp [AnyBreak]

@[simp] theorem anyBreak_append : AnyBreak (texts ++ texts') ↔ AnyBreak texts ∨ AnyBreak texts' := by
  simp [AnyBreak, or_and_right, exists_or]

theorem anyBreak_map {α : Type} {as : List α} {f : α → String} :
    AnyBreak (as.map f) ↔ ∃ a ∈ as, HasBreak (f a) := by
  simp [AnyBreak]

/-- **A joined text has a line break exactly if one of its parts has**, or what is between them. -/
theorem hasBreak_join (hsep : ¬ HasBreak sep) : HasBreak (Text.join sep texts) ↔ AnyBreak texts := by
  induction texts with
  | nil => simp [Text.join, HasBreak]
  | cons t texts ih =>
    cases texts with
    | nil => simp [Text.join]
    | cons u texts =>
      rw [Text.join, hasBreak_append, hasBreak_append, ih, anyBreak_cons (t := t), or_iff_left hsep]

theorem hasBreak_between {opening closing : String} (hopen : ¬ HasBreak opening)
    (hclose : ¬ HasBreak closing) : HasBreak (opening ++ s ++ closing) ↔ HasBreak s := by
  simp [hopen, hclose]

/-- A class of characters without the line break. -/
theorem not_hasBreak_of_class {p : Char → Bool} (h : ∀ c ∈ s.toList, p c = true)
    (hp : p '\n' = false) : ¬ HasBreak s := by
  intro hbreak
  rw [h _ hbreak] at hp
  cases hp

theorem not_hasBreak_of_figures (h : AreFigures s) : ¬ HasBreak s :=
  not_hasBreak_of_class h (by decide)

/-- Words that begin with a character of one class and go on with those of another. -/
theorem not_hasBreak_of_word (first other : Char → Bool)
    (h : ∀ c cs, s.toList = c :: cs → (first c && cs.all other) = true)
    (hfirst : first '\n' = false) (hother : other '\n' = false) : ¬ HasBreak s := by
  cases hs : s.toList with
  | nil => simp [HasBreak, hs]
  | cons c cs =>
    obtain ⟨hc, hcs⟩ := Bool.and_eq_true_iff.1 (h c cs hs)
    refine not_hasBreak_of_class (p := fun x => first x || other x) (fun x hx => ?_)
      (by simp [hfirst, hother])
    rw [hs] at hx
    rcases List.mem_cons.1 hx with rfl | hx
    · simp [hc]
    · simp [List.all_eq_true.1 hcs x hx]

/-- **The line breaks of a literal are escaped.** -/
theorem not_hasBreak_quoteSingle (s : String) : ¬ HasBreak (Text.quoteSingle s) := by
  have hescape (c : Char) : '\n' ∉ Text.escapeSingle c := by
    unfold Text.escapeSingle
    split_ifs with hslash hquote hbreak
    · decide
    · decide
    · decide
    · simpa using Ne.symm hbreak
  simp [HasBreak, Text.toList_quoteSingle, hescape]

end

/-! ## Terms -/

theorem not_hasBreak_timeText {s : String} (h : AreFigures s) : ¬ HasBreak (timeText s) := by
  rw [timeText, hasBreak_between (by decide) (by decide)]
  exact not_hasBreak_of_figures h

mutual

/-- **No literal has a line break.** -/
theorem Literal.not_hasBreak : ∀ v : Literal, ¬ HasBreak v.clauseText
  | .null => by decide
  | .bool true => by decide
  | .bool false => by decide
  | .int n => not_hasBreak_of_figures (.integerText n.toInt)
  | .float x => not_hasBreak_of_figures (.literal x)
  | .string s => not_hasBreak_quoteSingle s
  | .date d => not_hasBreak_timeText (.date d)
  | .moment m => not_hasBreak_timeText (.bound m.instant)
  | .array items => by
    rw [Literal.clauseText, hasBreak_between (by decide) (by decide), hasBreak_join (by decide)]
    exact Literal.not_anyBreak items
  | .tuple items => by
    rw [Literal.clauseText, hasBreak_between (by decide) (by decide), hasBreak_join (by decide)]
    exact Literal.not_anyBreak items

theorem Literal.not_anyBreak : ∀ vs : List Literal, ¬ AnyBreak (Literal.clauseTexts vs)
  | [] => by simp [Literal.clauseTexts]
  | v :: rest => by simp [Literal.clauseTexts, v.not_hasBreak, Literal.not_anyBreak rest]

end

theorem not_hasBreak_initializersText (initializers : Option (List Literal)) :
    ¬ HasBreak (initializersText initializers) := by
  cases initializers with
  | none => decide
  | some vs =>
    rw [initializersText, hasBreak_between (by decide) (by decide), hasBreak_join (by decide)]
    exact Literal.not_anyBreak vs

theorem not_hasBreak_functionName {s : String} (h : Expr.isFunctionName s.toList = true) :
    ¬ HasBreak s := by
  refine not_hasBreak_of_word Column.isStart Expr.isNamePart (fun c cs hs => ?_) (by decide)
    (by decide)
  rw [hs] at h
  exact h

theorem not_hasBreak_aliasText {label : Option String}
    (h : ∀ name ∈ label, Expr.isAlias name.toList = true) : ¬ HasBreak (aliasText label) := by
  cases label with
  | none => decide
  | some name =>
    have hform := h name rfl
    rw [aliasText, hasBreak_between (by decide) (by decide)]
    refine not_hasBreak_of_word Column.isStart Column.isPart (fun c cs hs => ?_) (by decide)
      (by decide)
    rw [hs] at hform
    exact hform

namespace Expr

mutual

/-- The names of the columns of an expression, at every depth. -/
def columnNames : Expr → List String
  | column c => [c.name]
  | literal _ => []
  | call _ _ parameters _ => allColumnNames parameters

/-- The names of the columns of expressions. -/
def allColumnNames : List Expr → List String
  | [] => []
  | e :: rest => e.columnNames ++ allColumnNames rest

end

mutual

/-- **An expression that passes its check has a line break exactly if a column of it has.** -/
theorem hasBreak_clauseText : ∀ e : Expr, e.validate = .ok () →
    (HasBreak e.clauseText ↔ AnyBreak e.columnNames)
  | column c, _ => by simp [clauseText, columnNames]
  | literal v, _ => by simp [clauseText, columnNames, v.not_hasBreak]
  | call function initializers parameters label, h => by
    obtain ⟨hname, hlabel, -, hparameters⟩ := validate_call_eq_ok.1 h
    have hopen : ¬ HasBreak "(" := by decide
    have hclose : ¬ HasBreak ")" := by decide
    have hall := anyBreak_clauseTexts parameters hparameters
    have hjoin : HasBreak (Text.join ", " (clauseTexts parameters)) ↔
        AnyBreak (allColumnNames parameters) := (hasBreak_join (by decide)).trans hall
    simp [clauseText, columnNames, hjoin, hopen, hclose, not_hasBreak_functionName hname,
      not_hasBreak_initializersText, not_hasBreak_aliasText hlabel]

/-- So have expressions, one by one. -/
theorem anyBreak_clauseTexts : ∀ es : List Expr, (∀ e ∈ es, e.validate = .ok ()) →
    (AnyBreak (clauseTexts es) ↔ AnyBreak (allColumnNames es))
  | [], _ => by simp [clauseTexts, allColumnNames]
  | e :: rest, h => by
    obtain ⟨he, hrest⟩ := List.forall_mem_cons.1 h
    simp [clauseTexts, allColumnNames, hasBreak_clauseText e he, anyBreak_clauseTexts rest hrest]

end

end Expr

theorem Comparison.not_hasBreak_text (op : Comparison) : ¬ HasBreak op.text := by
  cases op <;> decide

namespace Condition

/-- The names of the columns on both sides. -/
def columnNames (c : Condition) : List String :=
  c.lhs.columnNames ++ c.rhs.toList.flatMap Expr.columnNames

theorem hasBreak_clauseText {c : Condition} (h : c.validate = .ok ()) :
    HasBreak c.clauseText ↔ AnyBreak c.columnNames := by
  obtain ⟨-, hlhs, -, hrhs⟩ := validate_eq_ok.1 h
  have hblank : ¬ HasBreak " " := by decide
  have hop := c.op.not_hasBreak_text
  have hleft := Expr.hasBreak_clauseText c.lhs hlhs
  cases hc : c.rhs with
  | none =>
    have hnothing : ¬ HasBreak "" := by decide
    simp only [clauseText, hc, hasBreak_append, columnNames]
    simp [hleft, hblank, hop, hnothing]
  | some rhs =>
    have hright := Expr.hasBreak_clauseText rhs (hrhs rhs hc)
    simp [clauseText, columnNames, hc, hleft, hright, hblank, hop]

/-- The comparison of a column with a literal. -/
theorem hasBreak_ofColumn {name : String} {op : Comparison} {v : Literal} :
    HasBreak (ofColumn name op v).clauseText ↔ HasBreak name := by
  have hblank : ¬ HasBreak " " := by decide
  simp [ofColumn, clauseText, Expr.clauseText, hblank, op.not_hasBreak_text, v.not_hasBreak]

end Condition

namespace Filter

mutual

/-- The names of the columns of a filter, at every depth. -/
def columnNames : Filter → List String
  | condition c => c.columnNames
  | group _ members => allColumnNames members

/-- The names of the columns of filters. -/
def allColumnNames : List Filter → List String
  | [] => []
  | f :: rest => f.columnNames ++ allColumnNames rest

end

mutual

/-- **A filter that passes its check has a line break exactly if a column of it has.** -/
theorem hasBreak_clauseText : ∀ f : Filter, f.validate = .ok () →
    (HasBreak f.clauseText ↔ AnyBreak f.columnNames)
  | condition c, h => by
    rw [validate] at h
    rw [clauseText, columnNames, c.hasBreak_clauseText h]
  | group op members, h => by
    have hop : ¬ HasBreak (" " ++ op.text ++ " ") := by
      cases op <;> decide
    rw [clauseText, columnNames, hasBreak_between (by decide) (by decide), hasBreak_join hop]
    exact anyBreak_clauseTexts members (validate_group_eq_ok.1 h).2

/-- So have filters, one by one. -/
theorem anyBreak_clauseTexts : ∀ fs : List Filter, (∀ f ∈ fs, f.validate = .ok ()) →
    (AnyBreak (clauseTexts fs) ↔ AnyBreak (allColumnNames fs))
  | [], _ => by simp [clauseTexts, allColumnNames]
  | f :: rest, h => by
    obtain ⟨hf, hrest⟩ := List.forall_mem_cons.1 h
    simp [clauseTexts, allColumnNames, hasBreak_clauseText f hf, anyBreak_clauseTexts rest hrest]

end

end Filter

theorem Scope.not_hasBreak_filter (s : Scope) : ¬ HasBreak s.filter.clauseText := by
  have hconditions : ∀ c ∈ s.conditions, ¬ HasBreak c.clauseText := by
    intro c hc
    rcases List.mem_append.1 hc with hc | hc
    · rcases List.mem_pair.1 hc with rfl | rfl
      · exact Condition.hasBreak_ofColumn.not.2 (by decide)
      · exact Condition.hasBreak_ofColumn.not.2 (by decide)
    · split at hc
      · rw [List.mem_singleton.1 hc]
        exact Condition.hasBreak_ofColumn.not.2 (by decide)
      · cases hc
  rw [Scope.filter, Filter.clauseText, hasBreak_between (by decide) (by decide),
    hasBreak_join (by decide), Filter.clauseTexts_eq, List.map_map, anyBreak_map]
  rintro ⟨c, hc, hbreak⟩
  rw [Function.comp_apply, Filter.clauseText] at hbreak
  exact hconditions c hc hbreak

/-! ## Clauses -/

theorem Rollup.not_hasBreak_orderText {r : Rollup} {order : String} (h : order ∈ r.orderText) :
    ¬ HasBreak ("ORDER BY " ++ order) := by
  obtain ⟨interval, totals, orderby, granularity⟩ := r
  cases interval with
  | some n =>
    cases h
    decide
  | none =>
    cases orderby with
    | none => cases h
    | some direction =>
      cases h
      cases direction <;> decide

namespace StoreQuery

variable {q : StoreQuery}

/-- The names that a query writes as they are: those of its entity, its aggregate, and all of its
columns. -/
def names (q : StoreQuery) : List String :=
  [q.entity, q.series.aggregate] ++ (q.series.groupby.getD []).map Column.name ++
    Filter.allColumnNames (q.series.filters.getD [])

theorem hasBreak_selected (t : Timeseries) :
    HasBreak t.selected.clauseText ↔ HasBreak t.aggregate := by
  have hopen : ¬ HasBreak "(" := by decide
  have hclose : ¬ HasBreak ")" := by decide
  have hvalue : ¬ HasBreak (Text.join ", " (Expr.clauseTexts [.column ⟨"value"⟩])) := by decide
  have halias : ¬ HasBreak (aliasText (some valueAlias)) := by decide
  simp [Timeseries.selected, Expr.clauseText, not_hasBreak_initializersText, hopen, hclose, hvalue,
    halias]

/-- No bucket of time has a line break. -/
theorem not_hasBreak_timeBucket (interval : UInt32) : ¬ HasBreak (timeBucket interval).clauseText := by
  have hvalid : (timeBucket interval).validate = .ok () := rfl
  rw [Expr.hasBreak_clauseText _ hvalid]
  exact (by decide : ¬ AnyBreak ["timestamp"])

theorem anyBreak_groupParts :
    AnyBreak (groupParts q.rollup q.series) ↔
      AnyBreak ((q.series.groupby.getD []).map Column.name) := by
  have hbuckets :
      ¬ AnyBreak (q.rollup.interval.toList.map fun n => (timeBucket n).clauseText) := by
    rw [anyBreak_map]
    rintro ⟨n, -, hn⟩
    exact not_hasBreak_timeBucket n hn
  rw [groupParts, anyBreak_append, or_iff_right hbuckets]

theorem anyBreak_byClause :
    AnyBreak q.byClause ↔ AnyBreak ((q.series.groupby.getD []).map Column.name) := by
  rw [← anyBreak_groupParts, byClause]
  split
  · rename_i hnil
    rw [hnil]
  · have hword : ¬ HasBreak "BY " := by decide
    have hcomma : ¬ HasBreak ", " := by decide
    simp [hasBreak_join hcomma, hword]

theorem anyBreak_whereParts (h : ∀ f ∈ q.series.filters.getD [], f.validate = .ok ()) :
    AnyBreak q.whereParts ↔ AnyBreak (Filter.allColumnNames (q.series.filters.getD [])) := by
  have hgranularity : ¬ AnyBreak (q.rollup.granularity.toList.map fun n =>
      (Condition.ofColumn "granularity" .eq (.int (Int64.ofNat n.toNat))).clauseText) := by
    rw [anyBreak_map]
    rintro ⟨n, -, hn⟩
    exact absurd (Condition.hasBreak_ofColumn.1 hn) (by decide)
  have hmetric : ¬ HasBreak
      (Condition.ofColumn "metric_id" .eq (.ofNat q.metricId.toNat)).clauseText :=
    Condition.hasBreak_ofColumn.not.2 (by decide)
  have hbound (op : Comparison) (t : Instant) : ¬ HasBreak (timeBound op t).clauseText :=
    Condition.hasBreak_ofColumn.not.2 (by decide)
  simp [whereParts, Filter.anyBreak_clauseTexts _ h, hgranularity, hmetric, hbound,
    q.scope.not_hasBreak_filter]

theorem not_anyBreak_trailingClauses : ¬ AnyBreak q.trailingClauses := by
  have hdigits (word : String) (hword : ¬ HasBreak word) (n : Nat) :
      ¬ HasBreak (word ++ digitsOf n) := by
    rw [hasBreak_append, not_or]
    exact ⟨hword, not_hasBreak_of_figures (.digitsOf n)⟩
  have htotals : ¬ AnyBreak (if q.hasTotals then ["TOTALS True"] else []) := by
    split <;> decide
  rw [trailingClauses, anyBreak_append, anyBreak_append, anyBreak_append, anyBreak_map,
    anyBreak_map, anyBreak_map]
  rintro (((⟨order, horder, hbreak⟩ | ⟨n, -, hbreak⟩) | ⟨n, -, hbreak⟩) | hbreak)
  · exact Rollup.not_hasBreak_orderText (Option.mem_toList.1 horder) hbreak
  · exact hdigits "LIMIT " (by decide) _ hbreak
  · exact hdigits "OFFSET " (by decide) _ hbreak
  · exact htotals hbreak

/-- **A clause has a line break exactly if a name has that is written as it is.** -/
theorem anyBreak_clauses (h : ∀ f ∈ q.series.filters.getD [], f.validate = .ok ()) :
    AnyBreak q.clauses ↔ AnyBreak q.names := by
  have hwords : ¬ AnyBreak ["MATCH (", ")", "SELECT ", "WHERE "] := by decide
  simp only [anyBreak_cons, anyBreak_nil, or_false, not_or] at hwords
  have hand : ¬ HasBreak " AND " := by decide
  rw [clauses_eq, leadingClauses]
  simp [names, hwords, hasBreak_selected, anyBreak_byClause, anyBreak_whereParts h,
    hasBreak_join hand, not_anyBreak_trailingClauses]

/-! ## The words that clauses begin with -/

/-- Whether there is a bucket of time or a column to group by. -/
def isGrouped (q : StoreQuery) : Bool :=
  q.rollup.interval.isSome || !(q.series.groupby.getD []).isEmpty

/-- The words that the clauses begin with, of which some are there only if they are asked for. -/
def headings (q : StoreQuery) : List String :=
  ["MATCH", "SELECT"] ++
  (if q.isGrouped then ["BY"] else []) ++
  ["WHERE"] ++
  (if q.rollup.interval.isSome || q.rollup.orderby.isSome then ["ORDER BY"] else []) ++
  (if q.limit.isSome then ["LIMIT"] else []) ++
  (if q.offset.isSome then ["OFFSET"] else []) ++
  (if q.hasTotals then ["TOTALS"] else [])

/-- The clause begins with the word and a blank. -/
def BeginsWith (heading clause : String) : Prop := (heading ++ " ").toList <+: clause.toList

instance (heading clause : String) : Decidable (BeginsWith heading clause) :=
  inferInstanceAs (Decidable (_ <+: _))

theorem beginsWith_append {heading word : String} (h : word = heading ++ " ") (rest : String) :
    BeginsWith heading (word ++ rest) := by
  subst h
  exact ⟨rest.toList, String.toList_append.symm⟩

/-- A clause that is there if its value is. -/
theorem forall₂_map_toList {α : Type} {heading word : String} (h : word = heading ++ " ")
    (value : Option α) (text : α → String) :
    List.Forall₂ BeginsWith (if value.isSome then [heading] else [])
      (value.toList.map fun a => word ++ text a) := by
  cases value with
  | none => exact .nil
  | some a => exact .cons (beginsWith_append h _) .nil

theorem groupParts_eq_nil_iff : groupParts q.rollup q.series = [] ↔ q.isGrouped = false := by
  simp [groupParts, isGrouped]

theorem forall₂_byClause (q : StoreQuery) :
    List.Forall₂ BeginsWith (if q.isGrouped then ["BY"] else []) q.byClause := by
  cases hgrouped : q.isGrouped with
  | false =>
    rw [byClause, groupParts_eq_nil_iff.2 hgrouped]
    exact .nil
  | true =>
    have hne : groupParts q.rollup q.series ≠ [] := by
      rw [ne_eq, groupParts_eq_nil_iff, hgrouped]
      decide
    obtain ⟨part, parts, hparts⟩ := List.exists_cons_of_ne_nil hne
    rw [byClause, hparts]
    exact .cons (beginsWith_append (by decide) _) .nil

theorem isSome_orderText (r : Rollup) :
    r.orderText.isSome = (r.interval.isSome || r.orderby.isSome) := by
  unfold Rollup.orderText
  split <;> simp [*]

/-- **The clauses are there in order, each if it is asked for.** -/
theorem forall₂_clauses (q : StoreQuery) : List.Forall₂ BeginsWith q.headings q.clauses := by
  have hfirst : List.Forall₂ BeginsWith ["MATCH", "SELECT"]
      ["MATCH (" ++ q.entity ++ ")", "SELECT " ++ q.series.selected.clauseText] := by
    refine .cons ?_ (.cons (beginsWith_append (by decide) _) .nil)
    rw [show "MATCH (" = "MATCH " ++ "(" by decide, String.append_assoc, String.append_assoc]
    exact beginsWith_append (by decide) _
  have hwhere : List.Forall₂ BeginsWith ["WHERE"]
      ["WHERE " ++ Text.join " AND " q.whereParts] :=
    .cons (beginsWith_append (by decide) _) .nil
  have horder : List.Forall₂ BeginsWith
      (if q.rollup.interval.isSome || q.rollup.orderby.isSome then ["ORDER BY"] else [])
      (q.rollup.orderText.toList.map fun order => "ORDER BY " ++ order) := by
    rw [← isSome_orderText]
    exact forall₂_map_toList (by decide) _ _
  have hlimit : List.Forall₂ BeginsWith (if q.limit.isSome then ["LIMIT"] else [])
      (q.limit.toList.map fun n => "LIMIT " ++ digitsOf n.toNat) :=
    forall₂_map_toList (by decide) _ _
  have hoffset : List.Forall₂ BeginsWith (if q.offset.isSome then ["OFFSET"] else [])
      (q.offset.toList.map fun n => "OFFSET " ++ digitsOf n.toNat) :=
    forall₂_map_toList (by decide) _ _
  have htotals : List.Forall₂ BeginsWith (if q.hasTotals then ["TOTALS"] else [])
      (if q.hasTotals then ["TOTALS True"] else []) := by
    split
    · exact .cons (by decide) .nil
    · exact .nil
  exact List.rel_append (List.rel_append (List.rel_append (List.rel_append (List.rel_append
    (List.rel_append hfirst q.forall₂_byClause) hwhere) horder) hlimit) hoffset) htotals

end StoreQuery

/-! ## Lines -/

/-- The lines of a text. -/
def lines (text : String) : List String := (text.toList.splitOn '\n').map String.ofList

section

variable {texts : List String}

theorem toList_join (sep : String) (texts : List String) :
    (Text.join sep texts).toList = sep.toList.intercalate (texts.map String.toList) := by
  induction texts with
  | nil => simp [Text.join]
  | cons t texts ih =>
    cases texts with
    | nil => simp [Text.join]
    | cons u texts =>
      rw [Text.join, String.toList_append, String.toList_append, ih, List.map_cons, List.map_cons,
        List.map_cons, List.intercalate_cons_cons]

theorem not_mem_of_mem_splitOn {x : Char} {cs l : List Char} (h : l ∈ cs.splitOn x) : x ∉ l := by
  induction cs generalizing l with
  | nil => simp_all
  | cons c cs ih =>
    rw [List.splitOn_cons_eq_if_modifyHead] at h
    obtain ⟨first, rest, hsplit⟩ := List.exists_cons_of_ne_nil (List.splitOn_ne_nil x cs)
    rw [hsplit] at h ih
    split at h
    · rcases List.mem_cons.1 h with rfl | h
      · simp
      · exact ih h
    · rename_i hne
      rcases List.mem_cons.1 h with rfl | h
      · have hfirst := ih (List.mem_cons_self (l := rest))
        have hc : x ≠ c := fun heq => hne (beq_iff_eq.2 heq.symm)
        simp [hfirst, hc]
      · exact ih (List.mem_cons_of_mem _ h)

/-- No line has a line break. -/
theorem not_anyBreak_lines (text : String) : ¬ AnyBreak (lines text) := by
  rw [lines, anyBreak_map]
  rintro ⟨l, hl, hbreak⟩
  rw [HasBreak, String.toList_ofList] at hbreak
  exact not_mem_of_mem_splitOn hl hbreak

/-- **The lines of texts with line breaks between them are the texts, exactly if there is no line
break in these.** -/
theorem lines_join_iff (hne : texts ≠ []) :
    lines (Text.join "\n" texts) = texts ↔ ¬ AnyBreak texts := by
  constructor
  · intro heq
    rw [← heq]
    exact not_anyBreak_lines _
  · intro h
    have hnone : ∀ l ∈ texts.map String.toList, '\n' ∉ l := by
      intro l hl
      obtain ⟨t, ht, rfl⟩ := List.mem_map.1 hl
      exact fun hbreak => h ⟨t, ht, hbreak⟩
    have hbreak : "\n".toList = ['\n'] := rfl
    rw [lines, toList_join, hbreak, List.splitOn_intercalate _ hnone (by simpa using hne),
      List.map_map]
    simp

/-- Put on one line, these lines are the texts with blanks between them, exactly if there is no line
break in the texts. -/
theorem join_lines_join_iff (hne : texts ≠ []) :
    Text.join " " (lines (Text.join "\n" texts)) = Text.join " " texts ↔ ¬ AnyBreak texts := by
  have hblank : ¬ HasBreak " " := by decide
  constructor
  · intro heq
    rw [← hasBreak_join hblank, ← heq, hasBreak_join hblank]
    exact not_anyBreak_lines _
  · intro h
    rw [(lines_join_iff hne).2 h]

end

namespace Envelope

/-- **With a line to each clause, the lines are the clauses, but for line breaks in names.**  Where an
envelope passes its check and is written as clauses, these begin with the words that the query asks
for, in order.  The text on one line is one line, the lines of the other text are the clauses, and
joined by blanks they are the text on one line, each of them exactly if there is no line break in
the name of the entity, of the aggregate or of a column. -/
theorem clauseText_lines {m : Envelope} {layout : Layout} {text : String}
    (hm : m.validate = .ok ()) (ht : m.clauseText layout = .ok text) :
    ∃ q line page, m.storeQuery = .ok q ∧ m.clauseText .oneLine = .ok line ∧
      m.clauseText .lineEach = .ok page ∧
      List.Forall₂ StoreQuery.BeginsWith q.headings q.clauses ∧
      (¬ HasBreak line ↔ ∀ name ∈ q.names, ¬ HasBreak name) ∧
      (lines page = q.clauses ↔ ∀ name ∈ q.names, ¬ HasBreak name) ∧
      (Text.join " " (lines page) = line ↔ ∀ name ∈ q.names, ¬ HasBreak name) := by
  obtain ⟨q, hq, -⟩ := bind_eq_ok.1 ht
  obtain ⟨root, start, ending, rollup, scope, granularity, hparts, hvalid, -⟩ := exists_parts hm
  obtain ⟨⟨hquery, -, -, -, -⟩, -, -, -, -⟩ := storeQuery_eq_ok.1 hq
  have hroot : root = .timeseries q.series := Option.some.inj (hparts.query.symm.trans hquery)
  have hfilters : ∀ f ∈ q.series.filters.getD [], f.validate = .ok () := by
    rw [hroot] at hvalid
    exact Timeseries.validate_filters hvalid
  have hnames : ¬ AnyBreak q.clauses ↔ ∀ name ∈ q.names, ¬ HasBreak name := by
    rw [StoreQuery.anyBreak_clauses hfilters, AnyBreak, not_exists]
    exact forall_congr' fun name => not_and
  have hne : q.clauses ≠ [] := by simp [StoreQuery.clauses]
  have htext (layout : Layout) : m.clauseText layout = .ok (q.text layout) := bind_of_ok _ hq
  refine ⟨q, q.text .oneLine, q.text .lineEach, hq, htext .oneLine, htext .lineEach,
    q.forall₂_clauses, ?_, ?_, ?_⟩
  · exact (hasBreak_join (by decide)).not.trans hnames
  · exact (lines_join_iff hne).trans hnames
  · exact (join_lines_join_iff hne).trans hnames

/-- A line break in a literal is no matter; one in the name of the entity comes between a clause and
its line. -/
theorem clauseText_lines_entity :
    let m (entity : String) : Envelope := { empty with
      query := some (.timeseries ⟨⟨some "a", none, some 7, some entity⟩, "sum", none,
        some [.condition (.ofColumn "k" .eq (.string "x\ny"))], some [⟨"tags[b]"⟩]⟩)
      start := some ⟨0, 0⟩
      ending := some ⟨60, 0⟩
      rollup := some { Rollup.ofTotals true with granularity := some 60 }
      scope := some ⟨[1], [2], none⟩
      limit := some 5 }
    ((m "e").validate = .ok () ∧ ∃ q line page, (m "e").storeQuery = .ok q ∧
      q.headings = ["MATCH", "SELECT", "BY", "WHERE", "LIMIT"] ∧
      (m "e").clauseText .oneLine = .ok line ∧ (m "e").clauseText .lineEach = .ok page ∧
      lines page = q.clauses ∧ Text.join " " (lines page) = line) ∧
    (m "a\nb").validate = .ok () ∧ ∃ q line page, (m "a\nb").storeQuery = .ok q ∧
      (m "a\nb").clauseText .oneLine = .ok line ∧ (m "a\nb").clauseText .lineEach = .ok page ∧
      HasBreak line ∧ lines page ≠ q.clauses := by
  intro m
  have hvalid : (m "e").validate = .ok () := by rfl
  have hvalid' : (m "a\nb").validate = .ok () := by rfl
  obtain ⟨text, ht⟩ := exists_of_isSome (x := (m "e").clauseText .oneLine) (by rfl)
  obtain ⟨text', ht'⟩ := exists_of_isSome (x := (m "a\nb").clauseText .oneLine) (by rfl)
  refine ⟨⟨hvalid, ?_⟩, hvalid', ?_⟩
  · obtain ⟨q, line, page, hq, hline, hpage, -, -, hlines, hjoin⟩ := clauseText_lines hvalid ht
    have hunbroken : ∀ name ∈ q.names, ¬ HasBreak name := by
      cases hq
      decide
    refine ⟨q, line, page, hq, ?_, hline, hpage, hlines.2 hunbroken, hjoin.2 hunbroken⟩
    cases hq
    rfl
  · obtain ⟨q, line, page, hq, hline, hpage, -, hone, hlines, -⟩ := clauseText_lines hvalid' ht'
    have hbroken : ¬ ∀ name ∈ q.names, ¬ HasBreak name := by
      cases hq
      decide
    exact ⟨q, line, page, hq, hline, hpage, not_not.1 (hone.not.2 hbroken), hlines.not.2 hbroken⟩

end Envelope

end MetricQuery
