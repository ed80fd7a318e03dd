import MetricQuery.Proofs.WhereClause
import MetricQuery.Proofs.NumberText

/-!
# The numbers that a query to the store names

Metrics, organisations and projects have numbers of 64 bits.  An integer of the clause language has
63 bits and a sign.  A number that is too large for one becomes a double, which has 53 bits: it is
rounded, and written as a number with a fraction.

* `idText`                          : how a number is written;
* `idText_eq_digits_iff`            : in its digits exactly if it is an integer of the language;
* `Alike`                           : numbers that are written alike, `idText_eq_iff`;
* `StoreQuery.Ids`                  : the numbers of a query, `Envelope.withIds`;
* `StoreQuery.toList_text`          : the text of a query, cut around its numbers;
* `StoreQuery.text_withIds_iff`     : which queries with other numbers have the same text;
* `Envelope.clauseText_ids`         : what the clauses of an envelope say of its numbers.
-/

set_option autoImplicit false

namespace MetricQuery

open Outcome

/-! ## Large numbers as doubles -/

namespace Magnitude

theorem roundHalfEven_mem (num den : Nat) :
    roundHalfEven num den = num / den ∨ roundHalfEven num den = num / den + 1 := by
  unfold roundHalfEven
  dsimp only
  split
  · exact .inl rfl
  · split
    · exact .inr rfl
    · split
      · exact .inl rfl
      · exact .inr rfl

/-- **A number of 64 bits is rounded to a multiple of 2048.** -/
theorem exists_nearest?_large {n : Nat} (hlow : 2 ^ 63 ≤ n) (hhigh : n < 2 ^ 64) :
    ∃ x, nearest? n 1 = some x ∧ x.floor = 2048 * roundHalfEven n 2048 := by
  obtain ⟨u, hu, hU⟩ := exists_unitsInOne_eq
  have hpos : 0 < 2 ^ u := Nat.two_pow_pos u
  have hlog : Nat.log2 n = 63 := (Nat.log2_eq_iff (by omega)).2 ⟨hlow, hhigh⟩
  have hexp : exponentOf (n * 2 ^ u) = 11 + u := by
    rw [exponentOf, log2_mul_two_pow (by omega), hlog]
    omega
  have hround : roundHalfEven (n * 2 ^ u) (2 ^ (11 + u)) = roundHalfEven n 2048 := by
    rw [Nat.pow_add]
    exact roundHalfEven_scale hpos n 2048
  have hbits : 2 ^ 52 ≤ roundHalfEven n 2048 ∧ roundHalfEven n 2048 ≤ 2 ^ 53 := by
    rcases roundHalfEven_mem n 2048 with h | h
    · omega
    · omega
  have hnearest : nearest? n 1 = ofParts? (roundHalfEven n 2048) (11 + u) := by
    simp only [nearest?, Nat.div_one, Nat.one_mul, hU, hexp]
    exact congrArg (fun m => ofParts? m (11 + u)) hround
  obtain ⟨x, hx⟩ := exists_ofParts? hbits.1 hbits.2 (show 11 + u < 2045 by omega)
  refine ⟨x, hnearest.trans hx, ?_⟩
  rw [floor, units_of_ofParts? hx, hU, Nat.pow_add, ← Nat.mul_assoc, Nat.mul_div_cancel _ hpos,
    Nat.mul_comm]

end Magnitude

/-! ## Numbers as text -/

/-- How a number is written: in its digits if it is an integer of the language, and else as the
double nearest to it, with one decimal. -/
def idText (id : UInt64) : String :=
  if id.toNat < integerBound then digitsOf id.toNat
  else digitsOf (2048 * Magnitude.roundHalfEven id.toNat 2048) ++ ".0"

/-- Numbers that are written alike: they are the same, or too large for an integer and rounded to the
same double. -/
def Alike (a b : UInt64) : Prop :=
  a = b ∨ integerBound ≤ a.toNat ∧ integerBound ≤ b.toNat ∧
    Magnitude.roundHalfEven a.toNat 2048 = Magnitude.roundHalfEven b.toNat 2048

instance (a b : UInt64) : Decidable (Alike a b) := inferInstanceAs (Decidable (_ ∨ _))

theorem Literal.clauseText_ofNat (id : UInt64) :
    (Literal.ofNat id.toNat).clauseText = idText id := by
  unfold Literal.ofNat idText
  split
  · rename_i hlt
    have hint : (Int64.ofNat id.toNat).toInt = id.toNat := Int64.toInt_ofNat_of_lt hlt
    rw [clauseText, hint]
    rfl
  · rename_i hge
    have hlow : 2 ^ 63 ≤ id.toNat := Nat.not_lt.1 hge
    obtain ⟨x, hx, hfloor⟩ := Magnitude.exists_nearest?_large hlow id.toNat_lt
    rw [clauseText, Double.ofNat, Double.ofQuotient, hx, Double.ofMagnitude?, Double.literal,
      if_pos (Magnitude.isWhole_of_nearest? hx), hfloor]
    rfl

/-- What a number may be written with. -/
def isIdChar (c : Char) : Bool := c.isDigit || c == '.'

theorem idText_chars (id : UInt64) : ∀ c ∈ (idText id).toList, isIdChar c = true := by
  have hdigits (n : Nat) : ∀ c ∈ Nat.toDigits 10 n, isIdChar c = true := by
    intro c hc
    rw [isIdChar, (isNumeral_toDigits n).2 c hc, Bool.true_or]
  unfold idText
  split
  · rw [toList_digitsOf]
    exact hdigits _
  · rw [String.toList_append, toList_digitsOf, List.forall_mem_append]
    refine ⟨hdigits _, ?_⟩
    simp [isIdChar]

theorem idText_ne (id : UInt64) : idText id ≠ "" := by
  rw [← String.toList_inj.ne]
  unfold idText
  split
  · rw [toList_digitsOf]
    exact (isNumeral_toDigits _).1
  · simp

theorem digitsOf_inj {m n : Nat} : digitsOf m = digitsOf n ↔ m = n := by
  constructor
  · intro h
    have hdigits : Nat.toDigits 10 m = Nat.toDigits 10 n := by
      rw [← toList_digitsOf, h, toList_digitsOf]
    rw [← valueOf_toDigits m, hdigits, valueOf_toDigits]
  · exact congrArg digitsOf

/-- Digits alone do not end like a number with a fraction. -/
theorem digitsOf_ne (m n : Nat) : digitsOf m ≠ digitsOf n ++ ".0" := by
  intro h
  have hmem : '.' ∈ (digitsOf m).toList := by
    rw [h]
    simp
  rw [toList_digitsOf] at hmem
  exact absurd ((isNumeral_toDigits m).2 '.' hmem) (by decide)

/-- **A number is written in its digits exactly if it is an integer of the language.** -/
theorem idText_eq_digits_iff {id : UInt64} :
    idText id = digitsOf id.toNat ↔ id.toNat < integerBound := by
  unfold idText
  split
  · rename_i hlt
    exact iff_of_true rfl hlt
  · rename_i hge
    exact iff_of_false (digitsOf_ne _ _).symm hge

/-- **Two numbers have one text exactly if they are alike.** -/
theorem idText_eq_iff {a b : UInt64} : idText a = idText b ↔ Alike a b := by
  unfold idText Alike
  by_cases ha : a.toNat < integerBound
  · by_cases hb : b.toNat < integerBound
    · rw [if_pos ha, if_pos hb, digitsOf_inj, UInt64.toNat_inj]
      exact (or_iff_left fun h => absurd ha (Nat.not_lt.2 h.1)).symm
    · rw [if_pos ha, if_neg hb]
      refine iff_of_false (digitsOf_ne _ _) ?_
      rintro (rfl | ⟨h, -⟩)
      · exact hb ha
      · omega
  · by_cases hb : b.toNat < integerBound
    · rw [if_neg ha, if_pos hb]
      refine iff_of_false (digitsOf_ne _ _).symm ?_
      rintro (rfl | ⟨-, h, -⟩)
      · exact ha hb
      · omega
    · rw [if_neg ha, if_neg hb, String.append_left_inj, digitsOf_inj]
      constructor
      · intro h
        exact .inr ⟨by omega, by omega, by omega⟩
      · rintro (rfl | ⟨-, -, h⟩)
        · rfl
        · rw [h]

/-- Numbers of which one is an integer of the language are alike only if they are the same. -/
theorem alike_iff_eq {a b : UInt64} (h : b.toNat < integerBound) : Alike a b ↔ a = b :=
  or_iff_left fun hlarge => absurd h (Nat.not_lt.2 hlarge.2.1)

/-! ## Lists of numbers -/

/-- Numbers with commas between them. -/
def idsText (ids : List UInt64) : String := Text.join ", " (ids.map idText)

section

open Scanner

/-- A run of characters of a class ends where another character stands. -/
theorem append_inj_of_stops {p : Char → Bool} {a b s t : List Char} (ha : ∀ c ∈ a, p c = true)
    (hb : ∀ c ∈ b, p c = true) (hs : Stops p s) (ht : Stops p t) :
    a ++ s = b ++ t ↔ a = b ∧ s = t := by
  constructor
  · intro h
    have hrun : a = b := by
      rw [← takeWhile_append_of_stops ha hs, h, takeWhile_append_of_stops hb ht]
    rw [hrun] at h
    exact ⟨hrun, List.append_cancel_left h⟩
  · rintro ⟨rfl, rfl⟩
    rfl

/-- A number ends where a comma or a parenthesis stands. -/
theorem idText_append_iff {a b : UInt64} {s t : List Char} (hs : Stops isIdChar s)
    (ht : Stops isIdChar t) :
    (idText a).toList ++ s = (idText b).toList ++ t ↔ Alike a b ∧ s = t := by
  rw [append_inj_of_stops (idText_chars a) (idText_chars b) hs ht, String.toList_inj,
    idText_eq_iff]

theorem stops_joinedTail (ids : List UInt64) :
    Stops isIdChar (joinedTail ", " (ids.map idText)) := by
  cases ids with
  | nil => simp [joinedTail]
  | cons id ids => simp [joinedTail, isIdChar]

theorem joinedTail_idText_iff {as bs : List UInt64} :
    joinedTail ", " (as.map idText) = joinedTail ", " (bs.map idText) ↔
      List.Forall₂ Alike as bs := by
  induction as generalizing bs with
  | nil => cases bs <;> simp [joinedTail]
  | cons a as ih =>
    cases bs with
    | nil => simp [joinedTail]
    | cons b bs =>
      have hstep : joinedTail ", " ((a :: as).map idText) = joinedTail ", " ((b :: bs).map idText) ↔
          (idText a).toList ++ joinedTail ", " (as.map idText) =
            (idText b).toList ++ joinedTail ", " (bs.map idText) := by
        simp [joinedTail]
      rw [hstep, idText_append_iff (stops_joinedTail as) (stops_joinedTail bs), ih,
        List.forall₂_cons]

/-- **Lists have one text exactly if their numbers are alike, one by one.** -/
theorem idsText_eq_iff {as bs : List UInt64} :
    (idsText as).toList = (idsText bs).toList ↔ List.Forall₂ Alike as bs := by
  cases as with
  | nil =>
    cases bs with
    | nil => simp
    | cons b bs => simp [idsText, Text.join, toList_join_cons, idText_ne]
  | cons a as =>
    cases bs with
    | nil => simp [idsText, Text.join, toList_join_cons, idText_ne]
    | cons b bs =>
      rw [idsText, idsText, List.map_cons, List.map_cons, toList_join_cons, toList_join_cons,
        idText_append_iff (stops_joinedTail as) (stops_joinedTail bs), joinedTail_idText_iff,
        List.forall₂_cons]

theorem idsText_chars (ids : List UInt64) : ∀ c ∈ (idsText ids).toList, (c != ')') = true := by
  have hid (id : UInt64) : ∀ c ∈ (idText id).toList, (c != ')') = true := by
    intro c hc
    rw [bne_iff_ne]
    rintro rfl
    exact Bool.noConfusion (idText_chars id _ hc)
  have htail (ids : List UInt64) : ∀ c ∈ joinedTail ", " (ids.map idText), (c != ')') = true := by
    intro c hc
    obtain ⟨t, ht, hc⟩ := List.mem_flatMap.1 hc
    obtain ⟨id, -, rfl⟩ := List.mem_map.1 ht
    rcases List.mem_append.1 hc with hc | hc
    · have hcomma : c = ',' ∨ c = ' ' := by simpa using hc
      rcases hcomma with rfl | rfl <;> rfl
    · exact hid id c hc
  cases ids with
  | nil => simp [idsText, Text.join]
  | cons id ids =>
    rw [idsText, List.map_cons, toList_join_cons, List.forall_mem_append]
    exact ⟨hid id, htail ids⟩

/-- A list of numbers ends where a parenthesis stands. -/
theorem idsText_append_iff {as bs : List UInt64} {s t : List Char} :
    (idsText as).toList ++ ')' :: s = (idsText bs).toList ++ ')' :: t ↔
      List.Forall₂ Alike as bs ∧ s = t := by
  rw [append_inj_of_stops (idsText_chars as) (idsText_chars bs) (by simp) (by simp),
    idsText_eq_iff, List.cons.injEq, and_iff_right rfl]

end

/-! ## The text around the numbers -/

theorem idArray_clauseText (ids : List UInt64) :
    (idArray ids).clauseText = "array(" ++ idsText ids ++ ")" := by
  have htexts : Literal.clauseTexts (ids.map fun id => .ofNat id.toNat) = ids.map idText := by
    rw [Literal.clauseTexts_eq, List.map_map]
    exact List.map_congr_left fun id _ => Literal.clauseText_ofNat id
  rw [idArray, Literal.clauseText, htexts, idsText]

/-- The conditions of a scope that are not about its numbers. -/
def Scope.useCaseText (s : Scope) : String :=
  match s.useCaseId with
  | some name => " AND use_case_id = " ++ Text.quoteSingle name
  | none => ""

/-- The filter of a scope lists its numbers in two arrays. -/
theorem Scope.clauseText_filter (s : Scope) :
    s.filter.clauseText = "(org_id IN array(" ++ idsText s.orgIds ++ ") AND project_id IN array(" ++
      idsText s.projectIds ++ ")" ++ s.useCaseText ++ ")" := by
  obtain ⟨orgs, projects, useCase⟩ := s
  apply String.toList_inj.1
  cases useCase with
  | none =>
    simp [Scope.filter, Scope.conditions, Filter.clauseText, Filter.clauseTexts_eq, Text.join,
      Condition.ofColumn, Condition.clauseText, Expr.clauseText, idArray_clauseText, useCaseText,
      Connective.text, Comparison.text]
  | some name =>
    simp [Scope.filter, Scope.conditions, Filter.clauseText, Filter.clauseTexts_eq, Text.join,
      Condition.ofColumn, Condition.clauseText, Expr.clauseText, idArray_clauseText, useCaseText,
      Connective.text, Comparison.text, Literal.clauseText]

/-! ## The numbers of a query -/

/-- The numbers that a query to the store names. -/
structure Ids where
  metric : UInt64
  orgs : List UInt64
  projects : List UInt64
  deriving DecidableEq, Repr

namespace Ids

/-- The same numbers, except for those that are too large and rounded to the same double. -/
structure AreAlike (a b : Ids) : Prop where
  metric : Alike a.metric b.metric
  orgs : List.Forall₂ Alike a.orgs b.orgs
  projects : List.Forall₂ Alike a.projects b.projects

/-- All of the numbers are integers of the language. -/
structure AreIntegers (ids : Ids) : Prop where
  metric : ids.metric.toNat < integerBound
  orgs : ∀ id ∈ ids.orgs, id.toNat < integerBound
  projects : ∀ id ∈ ids.projects, id.toNat < integerBound

theorem eq_of_forall₂_alike {as bs : List UInt64} (h : List.Forall₂ Alike as bs)
    (hbs : ∀ id ∈ bs, id.toNat < integerBound) : as = bs := by
  induction h with
  | nil => rfl
  | cons hab _ ih =>
    obtain ⟨hb, hbs⟩ := List.forall_mem_cons.1 hbs
    rw [(alike_iff_eq hb).1 hab, ih hbs]

theorem areAlike_refl (ids : Ids) : ids.AreAlike ids :=
  ⟨.inl rfl, List.forall₂_same.2 fun _ _ => .inl rfl, List.forall₂_same.2 fun _ _ => .inl rfl⟩

/-- Integers are alike only if they are the same. -/
theorem areAlike_iff_eq {a b : Ids} (h : b.AreIntegers) : a.AreAlike b ↔ a = b := by
  constructor
  · rintro ⟨hmetric, horgs, hprojects⟩
    obtain ⟨metric, orgs, projects⟩ := a
    obtain ⟨metric', orgs', projects'⟩ := b
    obtain rfl := (alike_iff_eq h.metric).1 hmetric
    obtain rfl := eq_of_forall₂_alike horgs h.orgs
    obtain rfl := eq_of_forall₂_alike hprojects h.projects
    rfl
  · rintro rfl
    exact areAlike_refl a

end Ids

namespace StoreQuery

open Scanner

/-- The numbers of the query. -/
def ids (q : StoreQuery) : Ids := ⟨q.metricId, q.scope.orgIds, q.scope.projectIds⟩

/-- The query with other numbers. -/
def withIds (ids : Ids) (q : StoreQuery) : StoreQuery :=
  { q with
    series := { q.series with metric := { q.series.metric with id := some ids.metric } }
    metricId := ids.metric
    scope := { q.scope with orgIds := ids.orgs, projectIds := ids.projects } }

variable (layout : Layout) (q : StoreQuery)

/-- The condition on the granularity, if there is one. -/
def granularityParts : List String :=
  q.rollup.granularity.toList.map fun n =>
    (Condition.ofColumn "granularity" .eq (.int (Int64.ofNat n.toNat))).clauseText

/-- The conditions of the filters of the query. -/
def filterParts : List String := (q.series.filters.getD []).map Filter.clauseText

/-- The condition on the metric. -/
def metricPart : String := "metric_id = " ++ idText q.metricId

/-- The condition on organisations, projects and the use case. -/
def scopePart : String :=
  "(org_id IN array(" ++ idsText q.scope.orgIds ++ ") AND project_id IN array(" ++
    idsText q.scope.projectIds ++ ")" ++ q.scope.useCaseText ++ ")"

/-- The conditions on the time. -/
def timeParts : List String :=
  [(timeBound .gte q.start).clauseText, (timeBound .lt q.ending).clauseText]

/-- **The conditions of the `WHERE` clause**, with the numbers as they are written. -/
theorem whereParts_eq_ids :
    q.whereParts = q.granularityParts ++
      q.metricPart :: (q.filterParts ++ q.scopePart :: q.timeParts) := by
  have hmetric : (Condition.ofColumn "metric_id" .eq (.ofNat q.metricId.toNat)).clauseText =
      q.metricPart := by
    have hparts : (Condition.ofColumn "metric_id" .eq (.ofNat q.metricId.toNat)).clauseText =
        "metric_id" ++ " " ++ "=" ++ (" " ++ (Literal.ofNat q.metricId.toNat).clauseText) := by
      simp only [Condition.ofColumn, Condition.clauseText, Expr.clauseText, Comparison.text]
    rw [hparts, Literal.clauseText_ofNat, metricPart]
    apply String.toList_inj.1
    simp
  unfold whereParts granularityParts filterParts scopePart timeParts
  rw [hmetric, Scope.clauseText_filter, Filter.clauseTexts_eq]
  simp only [List.append_assoc, List.cons_append, List.nil_append]

/-- What is written in front of the number of the metric. -/
def front : List Char :=
  q.leadingClauses.flatMap (fun clause => clause.toList ++ layout.separator.toList) ++
    ("WHERE ".toList ++ (q.granularityParts.flatMap (fun part => part.toList ++ " AND ".toList) ++
      "metric_id = ".toList))

/-- What is written between the number of the metric and those of organisations. -/
def between : List Char :=
  joinedTail " AND " q.filterParts ++ (" AND ".toList ++ "(org_id IN array(".toList)

/-- What is written behind the numbers of projects and a parenthesis. -/
def behind : List Char :=
  q.scope.useCaseText.toList ++ ')' :: (joinedTail " AND " q.timeParts ++
    joinedTail layout.separator q.trailingClauses)

theorem toList_scopePart :
    q.scopePart.toList = "(org_id IN array(".toList ++ ((idsText q.scope.orgIds).toList ++
      ')' :: (" AND project_id IN array(".toList ++ ((idsText q.scope.projectIds).toList ++
        ')' :: (q.scope.useCaseText.toList ++ [')'])))) := by
  have hopen : ") AND project_id IN array(".toList = ')' :: " AND project_id IN array(".toList := by
    simp
  have hclose : ")".toList = [')'] := by simp
  unfold scopePart
  simp only [String.toList_append]
  rw [hopen, hclose]
  simp only [List.append_assoc, List.cons_append, List.nil_append]

/-- **The text of a query, cut around its numbers.** -/
theorem toList_text :
    (q.text layout).toList = q.front layout ++ ((idText q.metricId).toList ++ (q.between ++
      ((idsText q.scope.orgIds).toList ++ ')' :: (" AND project_id IN array(".toList ++
        ((idsText q.scope.projectIds).toList ++ ')' :: q.behind layout))))) := by
  have hwhere : (Text.join " AND " q.whereParts).toList =
      q.granularityParts.flatMap (fun part => part.toList ++ " AND ".toList) ++
        (q.metricPart.toList ++ (joinedTail " AND " q.filterParts ++
          (" AND ".toList ++ (q.scopePart.toList ++ joinedTail " AND " q.timeParts)))) := by
    rw [whereParts_eq_ids, toList_join_middle]
    simp only [joinedTail, List.flatMap_append, List.flatMap_cons, List.append_assoc]
  rw [text, clauses_eq, toList_join_middle, String.toList_append, hwhere, toList_scopePart,
    metricPart, String.toList_append]
  simp only [front, between, behind, List.append_assoc, List.cons_append, List.nil_append]

variable {layout q}

/-- A blank ends the number of the metric. -/
theorem stops_between (s : List Char) : Stops isIdChar (q.between ++ s) := by
  unfold between
  cases q.filterParts with
  | nil => simp [joinedTail, isIdChar]
  | cons part parts => simp [joinedTail, isIdChar]

section

variable (ids : Ids)

theorem front_withIds : (q.withIds ids).front layout = q.front layout := rfl

theorem between_withIds : (q.withIds ids).between = q.between := rfl

theorem behind_withIds : (q.withIds ids).behind layout = q.behind layout := rfl

end

/-- **A query with other numbers has the same text exactly if they are alike.** -/
theorem text_withIds_iff {ids : Ids} :
    (q.withIds ids).text layout = q.text layout ↔ ids.AreAlike q.ids := by
  rw [← String.toList_inj, toList_text, toList_text, front_withIds, between_withIds,
    behind_withIds, List.append_cancel_left_eq,
    idText_append_iff (stops_between _) (stops_between _), List.append_cancel_left_eq,
    idsText_append_iff, List.append_cancel_left_eq, idsText_append_iff, and_iff_left rfl]
  constructor
  · rintro ⟨hmetric, horgs, hprojects⟩
    exact ⟨hmetric, horgs, hprojects⟩
  · rintro ⟨hmetric, horgs, hprojects⟩
    exact ⟨hmetric, horgs, hprojects⟩

end StoreQuery

/-! ## The numbers of an envelope -/

/-- The query with another number of its metric; a formula has none of its own. -/
def Query.withMetricId (id : UInt64) : Query → Query
  | .timeseries t => .timeseries { t with metric := { t.metric with id := some id } }
  | .formula f => .formula f

namespace Envelope

/-- The envelope with other numbers of its metric, its organisations and its projects. -/
def withIds (ids : Ids) (m : Envelope) : Envelope :=
  { m with
    query := m.query.map (Query.withMetricId ids.metric)
    scope := m.scope.map fun s => { s with orgIds := ids.orgs, projectIds := ids.projects } }

variable {m : Envelope} {q : StoreQuery}

/-- The query to the store has the parts of the envelope, none of which is missing. -/
theorem storeQuery_eq_ok :
    m.storeQuery = .ok q ↔
      m.HasParts (.timeseries q.series) q.start q.ending q.rollup q.scope ∧
        q.series.metric.entity = some q.entity ∧ q.series.metric.id = some q.metricId ∧
        q.limit = m.limit ∧ q.offset = m.offset := by
  constructor
  · intro h
    obtain ⟨t, ht, h⟩ := bind_eq_ok.1 h
    obtain ⟨rollup, hrollup, h⟩ := bind_eq_ok.1 h
    obtain ⟨scope, hscope, h⟩ := bind_eq_ok.1 h
    obtain ⟨start, hstart, h⟩ := bind_eq_ok.1 h
    obtain ⟨ending, hending, h⟩ := bind_eq_ok.1 h
    rw [Part.require_eq_ok] at hrollup hscope hstart hending
    have hquery : m.query = some (.timeseries t) := by
      unfold series at ht
      split at ht
      · cases ht
        assumption
      · cases ht
      · cases ht
    split at h
    · cases h
    · cases h
    · rename_i entity id hentity hid
      cases pure_eq_ok.1 h
      exact ⟨⟨hquery, hstart, hending, hrollup, hscope⟩, hentity, hid, rfl, rfl⟩
  · rintro ⟨hparts, hentity, hid, hlimit, hoffset⟩
    rw [hparts.storeQuery_eq]
    dsimp only
    rw [hentity, hid]
    dsimp only
    rw [← hlimit, ← hoffset]

/-- Other numbers are those of the query to the store as well. -/
theorem storeQuery_withIds (h : m.storeQuery = .ok q) (ids : Ids) :
    (m.withIds ids).storeQuery = .ok (q.withIds ids) := by
  obtain ⟨hparts, hentity, -, hlimit, hoffset⟩ := storeQuery_eq_ok.1 h
  refine storeQuery_eq_ok.2 ⟨⟨?_, hparts.start, hparts.ending, hparts.rollup, ?_⟩, hentity, rfl,
    hlimit, hoffset⟩
  · rw [withIds, hparts.query]
    rfl
  · rw [withIds, hparts.scope]
    rfl

/-- The numbers of the query to the store are those of the envelope. -/
theorem withIds_self (h : m.storeQuery = .ok q) : m.withIds q.ids = m := by
  obtain ⟨⟨hquery, -, -, -, hscope⟩, -, hid, -, -⟩ := storeQuery_eq_ok.1 h
  obtain ⟨query, start, ending, rollup, scope, limit, offset, mappings⟩ := m
  obtain ⟨⟨⟨publicName, mri, id, entity⟩, aggregate, parameters, filters, groupby⟩, _, _, _, _, _,
    metricId, _, _⟩ := q
  dsimp only at hquery hscope hid
  rw [hid] at hquery
  rw [hquery, hscope]
  rfl

/-- **The clauses name numbers in their digits, as far as these are integers of the language.**
Where an envelope is written as clauses, its `WHERE` clause has the number of the metric and those of
organisations and projects in order.  A number is written in its digits exactly if it is less than
`2 ^ 63`.  With other numbers the envelope is written as well; the text is the same exactly if the
numbers are alike, and if the first were integers, exactly if they are the same. -/
theorem clauseText_ids {layout : Layout} {text : String} (h : m.clauseText layout = .ok text) :
    ∃ q, m.storeQuery = .ok q ∧ m.withIds q.ids = m ∧
      text = Text.join layout.separator (q.leadingClauses ++
        ("WHERE " ++ Text.join " AND " (q.granularityParts ++
          ("metric_id = " ++ idText q.metricId) :: (q.filterParts ++
          ("(org_id IN array(" ++ idsText q.scope.orgIds ++ ") AND project_id IN array(" ++
            idsText q.scope.projectIds ++ ")" ++ q.scope.useCaseText ++ ")") :: q.timeParts))) ::
        q.trailingClauses) ∧
      (∀ id, idText id = digitsOf id.toNat ↔ id.toNat < integerBound) ∧
      ∀ ids, ∃ text', (m.withIds ids).clauseText layout = .ok text' ∧
        (text' = text ↔ ids.AreAlike q.ids) ∧
        (q.ids.AreIntegers → (text' = text ↔ ids = q.ids)) := by
  obtain ⟨q, hq, h⟩ := bind_eq_ok.1 h
  cases pure_eq_ok.1 h
  refine ⟨q, hq, withIds_self hq, ?_, fun id => idText_eq_digits_iff, fun ids => ?_⟩
  · have hwhere := q.whereParts_eq_ids
    unfold StoreQuery.metricPart StoreQuery.scopePart at hwhere
    rw [StoreQuery.text, StoreQuery.clauses_eq, hwhere]
  · refine ⟨(q.withIds ids).text layout, bind_of_ok _ (storeQuery_withIds hq ids),
      StoreQuery.text_withIds_iff, fun hintegers => ?_⟩
    rw [StoreQuery.text_withIds_iff, Ids.areAlike_iff_eq hintegers]

/-- Two metrics whose numbers are rounded to one double: the same clauses ask for either. -/
theorem clauseText_ids_rounded :
    let m : Envelope := { empty with
      query := some (.timeseries
        ⟨⟨some "a", none, some 9223372036854775809, some "e"⟩, "sum", none, none, none⟩)
      start := some ⟨0, 0⟩
      ending := some ⟨60, 0⟩
      rollup := some { Rollup.ofInterval 60 with granularity := some 60 }
      scope := some ⟨[1], [2], none⟩ }
    let other : Ids := ⟨9223372036854775808, [1], [2]⟩
    m.validate = .ok () ∧ ∃ text, m.clauseText .oneLine = .ok text ∧
      (m.withIds other).clauseText .oneLine = .ok text ∧ m.withIds other ≠ m ∧
      idText 9223372036854775809 ≠ digitsOf 9223372036854775809 := by
  intro m other
  have hvalid : m.validate = .ok () := by rfl
  obtain ⟨text, htext⟩ := exists_of_isSome (x := m.clauseText .oneLine) rfl
  obtain ⟨q, hq, hself, -, hdigits, hids⟩ := clauseText_ids htext
  obtain ⟨text', htext', hsame, -⟩ := hids other
  have hnumbers : q.ids = ⟨9223372036854775809, [1], [2]⟩ := by
    have hstored : m.storeQuery.map StoreQuery.ids = .ok ⟨9223372036854775809, [1], [2]⟩ := by rfl
    rw [hq] at hstored
    exact Except.ok.inj hstored
  have halike : other.AreAlike q.ids := by
    rw [hnumbers]
    exact ⟨by decide, .cons (.inl rfl) .nil, .cons (.inl rfl) .nil⟩
  rw [hsame.2 halike] at htext'
  refine ⟨hvalid, text, htext, htext', fun heq => ?_, fun heq => ?_⟩
  · have hmetric := congrArg (fun m => m.query.bind fun q => q.series.head?.map (·.metric.id)) heq
    cases hmetric
  · exact absurd ((hdigits 9223372036854775809).1 heq) (by decide)

end Envelope

end MetricQuery
