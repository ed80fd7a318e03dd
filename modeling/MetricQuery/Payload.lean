import MetricQuery.Envelope
import MetricQuery.Query.Printer

/-!
# Payloads

A payload is what is sent to have a query run: the text of the query, and a context with all that
the text cannot say.

* `Envelope.payload`   : the payload of an envelope; nothing is checked;
* `Envelope.serialize` : the payload of an envelope that passes its check, with its filters rewritten;
* `Envelope.print`     : the same with the filters as written.
-/

set_option autoImplicit false

namespace MetricQuery

/-- The rollup as a payload says it. -/
structure RollupContext where
  orderby : Option Direction
  granularity : Option UInt32
  interval : Option UInt32
  withTotals : Option String
  deriving DecidableEq, Repr

/-- Everything about a query that its text cannot say. -/
structure Context where
  entity : Option String
  start : String
  ending : String
  rollup : RollupContext
  scope : Scope
  limit : Option UInt32
  offset : Option UInt64
  mappings : Table Mapping
  deriving DecidableEq

/-- The text of a query and its context. -/
structure Payload where
  mql : String
  context : Context
  deriving DecidableEq

/-- The word for a wish for totals. -/
def totalsText (totals : Bool) : String := if totals then "True" else "False"

/-- The rollup as a payload says it. -/
def Rollup.context (r : Rollup) : RollupContext :=
  ⟨r.orderby, r.granularity, r.interval, r.totals.map totalsText⟩

namespace Envelope

/-- The context of an envelope whose parts are given. -/
def contextOf (m : Envelope) (q : Query) (start ending : Instant) (rollup : Rollup)
    (scope : Scope) : Context where
  entity := q.entity?
  start := start.text
  ending := ending.text
  rollup := rollup.context
  scope := scope
  limit := m.limit
  offset := m.offset
  mappings := m.mappings

/-- The payload of an envelope; nothing is checked. -/
def payload (m : Envelope) : Except Refusal Payload := do
  let q ← Part.require .query m.query
  let start ← Part.require .start m.start
  let ending ← Part.require .ending m.ending
  let rollup ← Part.require .rollup m.rollup
  let scope ← Part.require .scope m.scope
  let mql ← q.print
  pure ⟨mql, m.contextOf q start ending rollup scope⟩

/-- The payload of an envelope that passes its check, with its filters rewritten. -/
def serialize (m : Envelope) : Except QueryError Payload := do
  m.validate
  QueryError.ofRefusal m.collapse.payload

/-- The payload of an envelope that passes its check, as written. -/
def print (m : Envelope) : Except QueryError Payload := do
  m.validate
  QueryError.ofRefusal m.payload

end Envelope

end MetricQuery
