import MetricQuery.CommandLine.Arguments
import MetricQuery.Journal
import MetricQuery.Payload.Json
import MetricQuery.Query.Outline

/-!
# The command

The command reads a query, puts it into an envelope as the arguments say, and prints it as a
payload, as a query text, as clauses or as an outline.

* `Arguments.envelope` : the envelope of a query;
* `Arguments.run`      : what is printed, and what is noted.
-/

set_option autoImplicit false

namespace MetricQuery.CommandLine

/-- Why the command fails. -/
inductive Failure where
  | query (error : QueryError)
  /-- An entity or a number of a metric is given for a formula. -/
  | annotatedFormula

namespace Failure

/-- The message for the user. -/
def message : Failure → String
  | query error => error.message
  | annotatedFormula => "--entity and --metric-id only apply to a single timeseries query"

/-- The message of the fault below, if there is one. -/
def cause? : Failure → Option String
  | query error => error.cause?
  | annotatedFormula => none

/-- The lines of a text, each of them indented. -/
def indent (s : String) : String :=
  "    " ++ String.ofList (s.toList.flatMap fun c => if c = '\n' then "\n    ".toList else [c])

/-- The message, and the cause below it. -/
def report (f : Failure) : String :=
  "Error: " ++ f.message ++
    match f.cause? with
    | some cause => "\n\nCaused by:\n" ++ indent cause
    | none => ""

end Failure

/-- What comes of the command: what is printed and what is noted. -/
structure Report where
  result : Except Failure String
  notes : List Note

namespace Arguments

/-- The interval and the granularity that are meant if none are given. -/
def defaultSeconds : UInt32 := 60

/-- The rollup that is asked for.  Results that are ordered are totals. -/
def rollup (a : Arguments) : Rollup :=
  let granularity := some (a.granularity.getD defaultSeconds)
  match a.orderby with
  | some direction =>
    { Rollup.ofTotals true with orderby := some direction, granularity }
  | none =>
    { Rollup.ofInterval (a.interval.getD defaultSeconds) with
      totals := if a.totals then some true else none, granularity }

/-- The scope that is asked for. -/
def scope (a : Arguments) : Scope := ⟨a.orgIds, a.projectIds, a.useCaseId⟩

/-- The envelope of a query.  The range ends at present if no end is given, and begins an hour
before its end if no start is given. -/
def envelope (a : Arguments) (now : Instant) (q : Query) : Envelope :=
  let ending := a.ending.getD now
  { Envelope.ofQuery q with
    start := some (a.start.getD ending.hourBefore)
    ending := some ending
    rollup := some a.rollup
    scope := some a.scope
    limit := a.limit
    offset := a.offset }

/-- Whether something is to be added to the metric. -/
def annotates (a : Arguments) : Bool := a.entity.isSome || a.metricId.isSome

/-- The metric with the entity and the number that are given. -/
def annotated (a : Arguments) (m : Metric) : Metric :=
  { m with entity := a.entity.or m.entity, id := a.metricId.or m.id }

/-- The query with its metric annotated, and the note of that. -/
def annotate (a : Arguments) (q : Query) : Except Failure (Query × List Note) :=
  if a.annotates then
    match q with
    | .timeseries t =>
      let metric := a.annotated t.metric
      .ok (.timeseries { t with metric }, [⟨.info, "annotated metric: " ++ metric.outline.inline⟩])
    | .formula _ => .error .annotatedFormula
  else .ok (q, [])

/-- The payload of an envelope, rewritten unless that is not wanted. -/
def payload (a : Arguments) (m : Envelope) : Except QueryError Payload :=
  if a.noOptimize then m.print else m.serialize

/-- The clauses of an envelope: rewritten on one line, or as written on a line each. -/
def clauses (a : Arguments) (m : Envelope) : Except QueryError String :=
  if a.noOptimize then m.printClauses else m.serializeClauses

/-- The envelope in the format that is asked for. -/
def render (a : Arguments) (m : Envelope) : Except QueryError String :=
  match a.format.getD .json with
  | .json => (a.payload m).map Payload.indentedText
  | .mql => (a.payload m).map Payload.mql
  | .snql => a.clauses m
  | .ast => .ok (Outline.option Query.outline m.query).block

/-- Reads the text of a query and prints it as the arguments say.  Notes are kept that are worth
showing to the user. -/
def run (a : Arguments) (now : Instant) (text : String) : Report :=
  match Query.parse text with
  | .error error => ⟨.error (.query error), []⟩
  | .ok q =>
    match a.annotate q with
    | .error failure => ⟨.error failure, []⟩
    | .ok (q, notes) =>
      match a.render (a.envelope now q) with
      | .ok output => ⟨.ok output, notes⟩
      | .error error => ⟨.error (.query error), notes⟩

end Arguments

end MetricQuery.CommandLine
