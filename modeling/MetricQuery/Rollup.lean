import MetricQuery.Invalid

/-!
# Rollups and scopes

A rollup says how values are put together over time: in buckets of an interval, or into totals.  A
scope says whose values they are.

* `Rollup`, `Scope`        : what they hold;
* `Rollup.validate`, `Scope.validate` : their checks.
-/

set_option autoImplicit false

namespace MetricQuery

/-- The direction in which results are ordered. -/
inductive Direction where
  | ascending
  | descending
  deriving DecidableEq, Repr

namespace Direction

/-- The word for the direction. -/
def text : Direction → String
  | ascending => "ASC"
  | descending => "DESC"

/-- The direction that the word stands for. -/
def ofText? (s : String) : Option Direction :=
  if s = "ASC" then some ascending else if s = "DESC" then some descending else none

@[simp] theorem ofText?_text (d : Direction) : ofText? d.text = some d := by
  cases d <;> decide

end Direction

/-- Buckets of an interval, totals, or both, on a granularity of storage. -/
structure Rollup where
  interval : Option UInt32
  totals : Option Bool
  orderby : Option Direction
  granularity : Option UInt32
  deriving DecidableEq, Repr

namespace Rollup

/-- A rollup that asks for nothing. -/
def empty : Rollup := ⟨none, none, none, none⟩

/-- Buckets of the interval. -/
def ofInterval (interval : UInt32) : Rollup := { empty with interval := some interval }

/-- Totals, or expressly none. -/
def ofTotals (totals : Bool) : Rollup := { empty with totals := some totals }

/-- The least interval there is, in seconds. -/
def leastInterval : UInt32 := 10

/-- Checks that the interval, if there is one, is not too short by itself or for the granularity. -/
def validateInterval (interval granularity : Option UInt32) : Except Invalid Unit :=
  match interval with
  | none => .ok ()
  | some n => do
    if n < leastInterval then .error (.shortInterval n) else .ok ()
    match granularity with
    | some g => if n < g then .error .intervalBelowGranularity else .ok ()
    | none => .ok ()

/-- Checks the granularity and the interval, that one of interval and totals is asked for, and that
buckets are not ordered by value. -/
def validate (r : Rollup) : Except Invalid Unit := do
  match r.granularity with
  | some g => if granularities.contains g then .ok () else .error .granularity
  | none => .ok ()
  validateInterval r.interval r.granularity
  if r.interval.isNone && r.totals.isNone then .error .emptyRollup else .ok ()
  if r.interval.isSome && r.orderby.isSome then .error .orderedIntervals else .ok ()

end Rollup

/-- The organisations and projects whose values are asked for, and the use case. -/
structure Scope where
  orgIds : List UInt64
  projectIds : List UInt64
  useCaseId : Option String
  deriving DecidableEq, Repr

namespace Scope

/-- The scope of nobody. -/
def empty : Scope := ⟨[], [], none⟩

/-- Checks that the use case, if there is one, has a name. -/
def validate (s : Scope) : Except Invalid Unit :=
  match s.useCaseId with
  | some name => if name.isEmpty then .error .emptyUseCase else .ok ()
  | none => .ok ()

end Scope

end MetricQuery
