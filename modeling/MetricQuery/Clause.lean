import MetricQuery.Clause.Term
import MetricQuery.Envelope

/-!
# The clauses of a query to the store

A timeseries in its envelope is run as a list of clauses, in a fixed order.  A formula has no such
form.

* `Envelope.whereParts` : the conditions of the `WHERE` clause: granularity, metric, the filters of
  the query, the scope, and the time range;
* `Envelope.clauses`    : the clauses, in order;
* `Envelope.clauseText` : the clauses as one text, on one line or on a line each.
-/

set_option autoImplicit false

namespace MetricQuery

/-! ## The parts of clauses -/

/-- The alias of the aggregated value. -/
def valueAlias : String := "aggregate_value"

/-- The alias of the time at which a bucket starts. -/
def timeAlias : String := "time"

/-- The aggregate of a timeseries, applied to the values of its metric. -/
def Timeseries.selected (t : Timeseries) : Expr :=
  .call t.aggregate t.parameters [.column ⟨"value"⟩] (some valueAlias)

/-- The start of the bucket that a value belongs to. -/
def timeBucket (interval : UInt32) : Expr :=
  .call "toStartOfInterval" none
    [.column ⟨"timestamp"⟩,
     .call "toIntervalSecond" none [.literal (.int (Int64.ofNat interval.toNat))] none,
     .literal (.string "Universal")]
    (some timeAlias)

/-- The numbers of a scope as an array. -/
def idArray (ids : List UInt64) : Literal := .array (ids.map fun id => .ofNat id.toNat)

/-- The conditions that keep a query within its scope. -/
def Scope.conditions (s : Scope) : List Condition :=
  [.ofColumn "org_id" .isIn (idArray s.orgIds),
   .ofColumn "project_id" .isIn (idArray s.projectIds)] ++
    match s.useCaseId with
    | some name => [.ofColumn "use_case_id" .eq (.string name)]
    | none => []

/-- The filter that keeps a query within its scope. -/
def Scope.filter (s : Scope) : Filter := .group .and (s.conditions.map .condition)

/-- A bound of the time range. -/
def timeBound (op : Comparison) (t : Instant) : Condition :=
  .ofColumn "timestamp" op (.moment (.utc t))

/-- What the results are ordered by, if they are. -/
def Rollup.orderText (r : Rollup) : Option String :=
  match r.interval, r.orderby with
  | some _, _ => some (timeAlias ++ " ASC")
  | none, some direction => some (valueAlias ++ " " ++ direction.text)
  | none, none => none

/-- What the results are grouped by: the bucket of time, and the columns of the grouping. -/
def groupParts (r : Rollup) (t : Timeseries) : List String :=
  (r.interval.toList.map fun n => (timeBucket n).clauseText) ++
    (t.groupby.getD []).map Column.name

/-! ## Clauses -/

/-- A query of which nothing that the clauses need is missing. -/
structure StoreQuery where
  series : Timeseries
  rollup : Rollup
  scope : Scope
  start : Instant
  ending : Instant
  entity : String
  metricId : UInt64
  limit : Option UInt32
  offset : Option UInt64

namespace StoreQuery

/-- The conditions of the `WHERE` clause, in order. -/
def whereParts (q : StoreQuery) : List String :=
  (q.rollup.granularity.toList.map fun n =>
    (Condition.ofColumn "granularity" .eq (.int (Int64.ofNat n.toNat))).clauseText) ++
  [(Condition.ofColumn "metric_id" .eq (.ofNat q.metricId.toNat)).clauseText] ++
  Filter.clauseTexts (q.series.filters.getD []) ++
  [q.scope.filter.clauseText, (timeBound .gte q.start).clauseText,
   (timeBound .lt q.ending).clauseText]

/-- The `BY` clause, if the results are grouped. -/
def byClause (q : StoreQuery) : List String :=
  match groupParts q.rollup q.series with
  | [] => []
  | parts => ["BY " ++ Text.join ", " parts]

/-- Whether totals go along with the buckets. -/
def hasTotals (q : StoreQuery) : Bool := q.rollup.interval.isSome && q.rollup.totals == some true

/-- The clauses, in order. -/
def clauses (q : StoreQuery) : List String :=
  ["MATCH (" ++ q.entity ++ ")", "SELECT " ++ q.series.selected.clauseText] ++
  q.byClause ++
  ["WHERE " ++ Text.join " AND " q.whereParts] ++
  (q.rollup.orderText.toList.map fun order => "ORDER BY " ++ order) ++
  (q.limit.toList.map fun n => "LIMIT " ++ digitsOf n.toNat) ++
  (q.offset.toList.map fun n => "OFFSET " ++ digitsOf n.toNat) ++
  (if q.hasTotals then ["TOTALS True"] else [])

end StoreQuery

/-- How the clauses are put together to one text. -/
inductive Layout where
  | oneLine
  | lineEach
  deriving DecidableEq, Repr

/-- What stands between two clauses. -/
def Layout.separator : Layout → String
  | oneLine => " "
  | lineEach => "\n"

/-- The clauses as one text. -/
def StoreQuery.text (layout : Layout) (q : StoreQuery) : String :=
  Text.join layout.separator q.clauses

namespace Envelope

/-- The timeseries of an envelope. -/
def series (m : Envelope) : Except Refusal Timeseries :=
  match m.query with
  | some (.timeseries t) => .ok t
  | some (.formula _) => .error .formulaClauses
  | none => .error (.missing .query)

/-- The query to the store, if nothing is missing for it. -/
def storeQuery (m : Envelope) : Except Refusal StoreQuery := do
  let series ← m.series
  let rollup ← Part.require .rollup m.rollup
  let scope ← Part.require .scope m.scope
  let start ← Part.require .start m.start
  let ending ← Part.require .ending m.ending
  match series.metric.entity, series.metric.id with
  | none, _ => .error .noEntity
  | some _, none => .error .noMetricId
  | some entity, some metricId =>
    pure { series, rollup, scope, start, ending, entity, metricId,
           limit := m.limit, offset := m.offset }

/-- The clauses of an envelope as one text; nothing is checked. -/
def clauseText (layout : Layout) (m : Envelope) : Except Refusal String := do
  let q ← m.storeQuery
  pure (q.text layout)

/-- The clauses of an envelope that passes its check, with its filters rewritten, on one line. -/
def serializeClauses (m : Envelope) : Except QueryError String := do
  m.validate
  QueryError.ofRefusal (m.collapse.clauseText .oneLine)

/-- The clauses of an envelope that passes its check, as written, on a line each. -/
def printClauses (m : Envelope) : Except QueryError String := do
  m.validate
  QueryError.ofRefusal (m.clauseText .lineEach)

end Envelope

end MetricQuery
