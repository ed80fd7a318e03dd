import MetricQuery.Invalid
import MetricQuery.Text.Scanner

/-!
# Metrics

A metric is identified by a public name, by a resource identifier of the shape
`type:namespace/name@unit`, by the number it is stored under, or by several of them.

* `Mri.segments`    : the four segments of a resource identifier, each of characters of its own class;
* `Metric.validate` : something identifies the metric, and what is there has its form.
-/

set_option autoImplicit false

namespace MetricQuery

namespace Mri

open Scanner

/-- The text of a resource identifier whose four segments hold characters of the given classes.
Each class leaves out the character that ends its segment. -/
def segments (kind space name unit : Char → Bool) : Scanner (List Char) := do
  let a ← takeSome kind
  char ':'
  let b ← takeSome space
  char '/'
  let c ← takeSome name
  char '@'
  let d ← takeSome unit
  pure (a ++ ':' :: b ++ '/' :: c ++ '@' :: d)

/-- Whether a whole text has the shape `type:namespace/name@unit`, with no line break in the
unit. -/
def isShaped (s : List Char) : Bool :=
  (segments (· != ':') (· != '/') (· != '@') (· != '\n')).whole? s |>.isSome

end Mri

/-- What a metric is known by, and the entity that stores it. -/
structure Metric where
  publicName : Option String
  mri : Option String
  id : Option UInt64
  entity : Option String
  deriving DecidableEq, Repr

namespace Metric

/-- A metric of which nothing is known. -/
def empty : Metric := ⟨none, none, none, none⟩

/-- The metric with a public name. -/
def ofPublicName (name : String) : Metric := { empty with publicName := some name }

/-- The metric with a resource identifier. -/
def ofMri (mri : String) : Metric := { empty with mri := some mri }

/-- The metric with a number. -/
def ofId (id : UInt64) : Metric := { empty with id := some id }

/-- The cause, if the text is there and does not have the property. -/
def require (p : String → Bool) (cause : String → Invalid) : Option String → Except Invalid Unit
  | none => .ok ()
  | some s => if p s then .ok () else .error (cause s)

/-- Checks that something identifies the metric and that what is there has its form. -/
def validate (m : Metric) : Except Invalid Unit := do
  if m.publicName.isNone && m.mri.isNone && m.id.isNone then .error .anonymousMetric else .ok ()
  require (fun s => !Text.isAllBlank s) (fun _ => .blankPublicName) m.publicName
  require (fun s => Mri.isShaped s.toList) .mriShape m.mri
  require (fun s => !Text.isAllBlank s) (fun _ => .blankEntity) m.entity

/-- A metric from what identifies it, if it passes the check. -/
def new (publicName mri : Option String) (id : Option UInt64) : Except Invalid Metric := do
  let metric : Metric := ⟨publicName, mri, id, none⟩
  metric.validate
  pure metric

end Metric

end MetricQuery
