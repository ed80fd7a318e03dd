import MetricQuery.Collapse
import MetricQuery.Refusal
import MetricQuery.Rollup
import MetricQuery.Table

/-!
# Queries with all that is needed to run them

An envelope holds a query and the time range, the rollup, the scope and the paging that it is to be
run with.  All of them may be missing at first.

* `Envelope.validate` : nothing that is needed is missing, and everything passes its check;
* `Envelope.collapse` : the envelope with the filters of its query rewritten.
-/

set_option autoImplicit false

namespace MetricQuery

/-- What a name in a query is resolved to: a text or an integer. -/
inductive Mapping where
  | string (value : String)
  | int (value : Int64)
  deriving DecidableEq, Repr

/-- A query and what it is to be run with. -/
structure Envelope where
  query : Option Query
  start : Option Instant
  ending : Option Instant
  rollup : Option Rollup
  scope : Option Scope
  limit : Option UInt32
  offset : Option UInt64
  mappings : Table Mapping

/-- What is there, or the refusal of its absence. -/
def Part.require {α : Type} (part : Part) : Option α → Except Refusal α
  | some a => .ok a
  | none => .error (.missing part)

/-- The outcome of what may be refused, as the outcome of what needs it. -/
def QueryError.ofRefusal {α : Type} : Except Refusal α → Except QueryError α
  | .ok a => .ok a
  | .error cause => .error (.refused cause)

namespace Envelope

/-- An envelope with nothing in it. -/
def empty : Envelope := ⟨none, none, none, none, none, none, none, .empty⟩

/-- An envelope with nothing but a query. -/
def ofQuery (q : Query) : Envelope := { empty with query := some q }

/-- The greatest limit there is. -/
def greatestLimit : UInt32 := 10000

/-- Checks that the limit, if there is one, is neither zero nor too large. -/
def validateLimit : Option UInt32 → Except Refusal Unit
  | none => .ok ()
  | some n =>
    if n < 1 then .error (.smallLimit n)
    else if greatestLimit < n then .error (.largeLimit n)
    else .ok ()

/-- Checks the rollup, which has to have a granularity. -/
def validateRollup (rollup : Option Rollup) : Except QueryError Unit := do
  let r ← QueryError.ofRefusal (Part.require .rollup rollup)
  if r.granularity.isNone then .error (.refused .noGranularity) else .ok ()
  QueryError.ofCheck r.validate

/-- Checks that nothing that is needed is missing, and each part in order. -/
def validate (m : Envelope) : Except QueryError Unit := do
  let q ← QueryError.ofRefusal (Part.require .query m.query)
  QueryError.ofCheck q.validate
  let _ ← QueryError.ofRefusal (Part.require .start m.start)
  let _ ← QueryError.ofRefusal (Part.require .ending m.ending)
  validateRollup m.rollup
  let scope ← QueryError.ofRefusal (Part.require .scope m.scope)
  QueryError.ofCheck scope.validate
  QueryError.ofRefusal (validateLimit m.limit)

/-- The envelope with the filters at the root of its query rewritten. -/
def collapse (m : Envelope) : Envelope := { m with query := m.query.map Query.collapse }

end Envelope

end MetricQuery
