import MetricQuery.Clause
import MetricQuery.Parse
import MetricQuery.Payload

/-!
# What is noted along the way

Reading, rewriting and writing leave notes in a journal.  The journal of an action is a function of
what the action is given.

* `Note`            : a level and a text;
* `Query.parseNotes`, `Filter.collapseNotes`, `Query.collapseNotes` : reading and rewriting;
* `Envelope.serializeNotes`, `Envelope.serializeClausesNotes`, `Envelope.printClausesNotes`,
  `Envelope.clauseNotes` : writing.
-/

set_option autoImplicit false

namespace MetricQuery

/-- How important a note is. -/
inductive Level where
  | trace
  | debug
  | info
  deriving DecidableEq, Repr

/-- A note in the journal. -/
structure Note where
  level : Level
  text : String
  deriving DecidableEq, Repr

/-- What is noted when a text is read as a query. -/
def Query.parseNotes (text : String) : List Note :=
  match Query.parse text with
  | .ok q => [⟨.debug, "parsed MQL " ++ Text.quoteShown text ++ " into " ++ q.kind⟩]
  | .error _ => []

/-- What is noted when filters are rewritten. -/
def Filter.collapseNotes (filters : List Filter) : List Note :=
  match collapsible filters with
  | 0 => []
  | n => [⟨.debug, "collapsed " ++ digitsOf n ++ " OR group(s) into IN conditions"⟩]

/-- What is noted when the filters at the root of a query are rewritten. -/
def Query.collapseNotes (q : Query) : List Note := Filter.collapseNotes (q.filters.getD [])

namespace Envelope

/-- What is noted when the filters of an envelope are rewritten. -/
def collapseNotes (m : Envelope) : List Note :=
  match m.query with
  | some q => q.collapseNotes
  | none => []

/-- What is noted when the clauses of an envelope are written. -/
def clauseNotes (layout : Layout) (m : Envelope) : List Note :=
  match m.storeQuery with
  | .ok q => [⟨.trace, "printed SnQL for " ++ q.entity ++ ": " ++ q.text layout⟩]
  | .error _ => []

/-- Notes that are made only if the envelope passes its check. -/
def ifValid (m : Envelope) (notes : List Note) : List Note :=
  match m.validate with
  | .ok _ => notes
  | .error _ => []

/-- What is noted when an envelope is serialized. -/
def serializeNotes (m : Envelope) : List Note :=
  m.ifValid (m.collapseNotes ++
    match m.collapse.payload with
    | .ok payload => [⟨.debug, "serialized metrics query: " ++ payload.mql⟩]
    | .error _ => [])

/-- What is noted when an envelope is serialized to clauses. -/
def serializeClausesNotes (m : Envelope) : List Note :=
  m.ifValid (m.collapseNotes ++ m.collapse.clauseNotes .oneLine)

/-- What is noted when the clauses of an envelope are printed. -/
def printClausesNotes (m : Envelope) : List Note :=
  m.ifValid (m.clauseNotes .lineEach)

end Envelope

end MetricQuery
