import MetricQuery.Json.Reader
import MetricQuery.Table

/-!
# Libraries for JSON

How values are written and read, how fields are put in order, and how data of each shape is decoded
is the affair of a library.  A decoder yields nothing where it refuses a value.

* `JsonLibrary`          : what payloads ask of a library;
* `JsonLibrary.standard` : a library that runs.
-/

set_option autoImplicit false

namespace MetricQuery

/-- What payloads ask of a library. -/
structure JsonLibrary where
  /-- The text of a value, without blanks. -/
  write : Json → String
  /-- The value that a text consists of. -/
  read? : String → Option Json
  /-- The value with the fields of every object in the order of their names. -/
  sorted : Json → Json
  /-- A text. -/
  string? : Json → Option String
  /-- A number of 32 bits. -/
  uint32? : Json → Option UInt32
  /-- A number of 64 bits. -/
  uint64? : Json → Option UInt64
  /-- A number of 64 bits with a sign. -/
  int64? : Json → Option Int64
  /-- An array. -/
  list? : {α : Type} → (Json → Option α) → Json → Option (List α)
  /-- One of several words. -/
  variant? : {α : Type} → List (String × α) → Json → Option α
  /-- Data of one of several shapes, none of which is named. -/
  untagged? : {α : Type} → List (Json → Option α) → Json → Option α
  /-- A table. -/
  table? : {β : Type} → (Json → Option β) → Json → Option (Table β)
  /-- The values of the fields of a record with the given names, where they are there. -/
  record? : List String → Json → Option (List (Option Json))
  /-- A field that has to be there. -/
  needed? : {α : Type} → (Json → Option α) → Option Json → Option α
  /-- A field whose value may be null. -/
  optional? : {α : Type} → (Json → Option α) → Option Json → Option (Option α)

/-! ## Decoding -/

namespace Json

/-- A text. -/
def string? : Json → Option String
  | string s => some s
  | _ => none

/-- A whole number from zero to below the bound. -/
def below? (bound : Nat) : Json → Option Nat
  | int (.ofNat n) => if n < bound then some n else none
  | _ => none

/-- A number of 32 bits. -/
def uint32? (v : Json) : Option UInt32 := (v.below? UInt32.size).map UInt32.ofNat

/-- A number of 64 bits. -/
def uint64? (v : Json) : Option UInt64 := (v.below? UInt64.size).map UInt64.ofNat

/-- A number of 64 bits with a sign. -/
def int64? : Json → Option Int64
  | int n =>
    if Int64.minValue.toInt ≤ n ∧ n ≤ Int64.maxValue.toInt then some (Int64.ofInt n) else none
  | _ => none

variable {α β : Type}

/-- A value that may be absent. -/
def option? (decode : Json → Option α) : Json → Option (Option α)
  | null => some none
  | v => (decode v).map some

/-- An array. -/
def list? (decode : Json → Option α) : Json → Option (List α)
  | array items => items.mapM decode
  | _ => none

/-- One of several words, or an object with the word as the name of a field without a value. -/
def variant? (variants : List (String × α)) : Json → Option α
  | string name => variants.lookup name
  | object [(name, null)] => variants.lookup name
  | _ => none

/-- What the first decoder makes of a value that does not refuse it. -/
def untagged? (decoders : List (Json → Option α)) (v : Json) : Option α :=
  decoders.findSome? fun decode => decode v

/-- A table, filled in the order of the fields. -/
def table? (decode : Json → Option β) : Json → Option (Table β)
  | object fields =>
    (fields.mapM fun f => (decode f.2).map fun value => (f.1, value)).map Table.ofList
  | _ => none

/-- The values of all fields of the name. -/
def valuesOf (name : String) : List (String × Json) → List Json
  | [] => []
  | (other, v) :: rest => if other = name then v :: valuesOf name rest else valuesOf name rest

/-- The value of the field of the name, if it is there.  It must not be there twice. -/
def field? (name : String) (fields : List (String × Json)) : Option (Option Json) :=
  match valuesOf name fields with
  | [] => some none
  | [v] => some (some v)
  | _ => none

/-- The values of the fields of a record, which is an object or an array of just these values. -/
def record? (names : List String) : Json → Option (List (Option Json))
  | object fields => names.mapM fun name => field? name fields
  | array items => if items.length = names.length then some (items.map some) else none
  | _ => none

/-- A field that has to be there. -/
def needed? (decode : Json → Option α) : Option Json → Option α
  | some v => decode v
  | none => none

/-- A field whose value may be absent, and which may then be missing. -/
def optional? (decode : Json → Option α) : Option Json → Option (Option α)
  | some v => option? decode v
  | none => some none

end Json

/-- A library that runs. -/
def JsonLibrary.standard : JsonLibrary where
  write := Json.compact
  read? := Json.read?
  sorted := Json.canonical
  string? := Json.string?
  uint32? := Json.uint32?
  uint64? := Json.uint64?
  int64? := Json.int64?
  list? := Json.list?
  variant? := Json.variant?
  untagged? := Json.untagged?
  table? := Json.table?
  record? := Json.record?
  needed? := Json.needed?
  optional? := Json.optional?

end MetricQuery
