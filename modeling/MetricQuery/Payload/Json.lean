import MetricQuery.Json.Library
import MetricQuery.Payload

/-!
# Payloads as JSON

A payload is written as an object of objects, with its fields in a fixed order.  It is decoded by a
library, a record from its fields by their names.

* `Payload.toJson`  : the JSON value of a payload;
* `Payload.decode`  : the payload that a library takes a JSON value for;
* `Payload.read?`   : the payload that a library takes a text for;
* `Payload.text`, `Payload.sortedText` : its text, in the order of the fields or of their names;
* `Payload.ofJson?` : the payload that a JSON value stands for.
-/

set_option autoImplicit false

namespace MetricQuery

/-! ## Writing -/

namespace Json

/-- A value that may be absent. -/
def ofOption {α : Type} (encode : α → Json) : Option α → Json
  | none => null
  | some a => encode a

/-- A number of 32 bits. -/
def ofUInt32 (n : UInt32) : Json := int n.toNat

/-- A number of 64 bits. -/
def ofUInt64 (n : UInt64) : Json := int n.toNat

end Json

/-- The name of a direction. -/
def Direction.name : Direction → String
  | ascending => "Asc"
  | descending => "Desc"

/-- A direction: its name in capital letters. -/
def Direction.toJson (d : Direction) : Json := .string d.name.toUpper

/-- What a name is resolved to. -/
def Mapping.toJson : Mapping → Json
  | string s => .string s
  | int n => .int n.toInt

/-- The rollup of a context. -/
def RollupContext.toJson (r : RollupContext) : Json :=
  .object
    [("orderby", .ofOption Direction.toJson r.orderby),
     ("granularity", .ofOption .ofUInt32 r.granularity),
     ("interval", .ofOption .ofUInt32 r.interval),
     ("with_totals", .ofOption .string r.withTotals)]

/-- A scope. -/
def Scope.toJson (s : Scope) : Json :=
  .object
    [("org_ids", .array (s.orgIds.map .ofUInt64)),
     ("project_ids", .array (s.projectIds.map .ofUInt64)),
     ("use_case_id", .ofOption .string s.useCaseId)]

/-- A table, in its order. -/
def Table.toJson (t : Table Mapping) : Json :=
  .object (t.entries.map fun entry => (entry.1, entry.2.toJson))

/-- A context. -/
def Context.toJson (c : Context) : Json :=
  .object
    [("entity", .ofOption .string c.entity),
     ("start", .string c.start),
     ("end", .string c.ending),
     ("rollup", c.rollup.toJson),
     ("scope", c.scope.toJson),
     ("limit", .ofOption .ofUInt32 c.limit),
     ("offset", .ofOption .ofUInt64 c.offset),
     ("indexer_mappings", c.mappings.toJson)]

namespace Payload

/-- A payload. -/
def toJson (p : Payload) : Json :=
  .object [("mql", .string p.mql), ("mql_context", p.context.toJson)]

/-- The text of a payload, its fields in order. -/
def text (p : Payload) : String := JsonLibrary.standard.write p.toJson

/-- The text of a payload, its fields in the order of their names. -/
def sortedText (p : Payload) : String :=
  JsonLibrary.standard.write (JsonLibrary.standard.sorted p.toJson)

/-- The text of a payload with a field on a line, in the order of their names. -/
def indentedText (p : Payload) : String := p.toJson.canonical.indented

end Payload

/-! ## Reading -/

section

variable (L : JsonLibrary)

/-- A direction, by its name in capital letters. -/
def Direction.decode : Json → Option Direction :=
  L.variant? ([ascending, descending].map fun d => (d.name.toUpper, d))

/-- What a name is resolved to: a text or else a number. -/
def Mapping.decode : Json → Option Mapping :=
  L.untagged? [fun v => (L.string? v).map string, fun v => (L.int64? v).map int]

/-- The rollup of a context. -/
def RollupContext.decode (v : Json) : Option RollupContext :=
  match L.record? ["orderby", "granularity", "interval", "with_totals"] v with
  | some [orderby, granularity, interval, withTotals] => do
    let orderby ← L.optional? (Direction.decode L) orderby
    let granularity ← L.optional? L.uint32? granularity
    let interval ← L.optional? L.uint32? interval
    let withTotals ← L.optional? L.string? withTotals
    pure ⟨orderby, granularity, interval, withTotals⟩
  | _ => none

/-- A scope. -/
def Scope.decode (v : Json) : Option Scope :=
  match L.record? ["org_ids", "project_ids", "use_case_id"] v with
  | some [orgIds, projectIds, useCaseId] => do
    let orgIds ← L.needed? (L.list? L.uint64?) orgIds
    let projectIds ← L.needed? (L.list? L.uint64?) projectIds
    let useCaseId ← L.optional? L.string? useCaseId
    pure ⟨orgIds, projectIds, useCaseId⟩
  | _ => none

/-- A context. -/
def Context.decode (v : Json) : Option Context :=
  match L.record?
    ["entity", "start", "end", "rollup", "scope", "limit", "offset", "indexer_mappings"] v with
  | some [entity, start, ending, rollup, scope, limit, offset, mappings] => do
    let entity ← L.optional? L.string? entity
    let start ← L.needed? L.string? start
    let ending ← L.needed? L.string? ending
    let rollup ← L.needed? (RollupContext.decode L) rollup
    let scope ← L.needed? (Scope.decode L) scope
    let limit ← L.optional? L.uint32? limit
    let offset ← L.optional? L.uint64? offset
    let mappings ← L.needed? (L.table? (Mapping.decode L)) mappings
    pure { entity, start, ending, rollup, scope, limit, offset, mappings }
  | _ => none

/-- A payload. -/
def Payload.decode (v : Json) : Option Payload :=
  match L.record? ["mql", "mql_context"] v with
  | some [mql, context] => do
    let mql ← L.needed? L.string? mql
    let context ← L.needed? (Context.decode L) context
    pure ⟨mql, context⟩
  | _ => none

/-- The payload that a text stands for. -/
def Payload.read? (text : String) : Option Payload := do
  let v ← L.read? text
  decode L v

end

/-- What a name is resolved to, with the library that runs. -/
def Mapping.ofJson? : Json → Option Mapping := decode .standard

/-- The payload that a JSON value stands for, with the library that runs. -/
def Payload.ofJson? : Json → Option Payload := decode .standard

end MetricQuery
