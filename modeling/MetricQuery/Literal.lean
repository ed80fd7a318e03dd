import MetricQuery.Invalid
import MetricQuery.Outline
import MetricQuery.Time.Instant

/-!
# Literals

The values that conditions compare with and that aggregates take as parameters.

* `Literal.validate` : numbers are finite, and the items of an array are of one family;
* `Literal.same`     : equality, of numbers as numbers and of moments as instants;
* `Literal.outline`  : the literal as a reader is shown it.
-/

set_option autoImplicit false

namespace MetricQuery

/-- A value written in a query. -/
inductive Literal where
  | null
  | bool (value : Bool)
  | int (value : Int64)
  | float (value : Double)
  | string (value : String)
  | date (value : Date)
  | moment (value : Moment)
  | array (items : List Literal)
  | tuple (items : List Literal)

/-- The families of literals; the items of an array are of one family. -/
inductive Family where
  | bool
  | number
  | string
  | date
  | moment
  | array
  | tuple
  deriving DecidableEq, Repr

namespace Literal

/-- The literal of a natural number: an integer if it is small enough for one. -/
def ofNat (n : Nat) : Literal :=
  if n < integerBound then int (Int64.ofNat n) else float (Double.ofNat n)

/-- The array of texts. -/
def ofStrings (items : List String) : Literal := array (items.map string)

/-- Numbers and texts, which alone can be parameters of an aggregate. -/
def isParameter : Literal → Bool
  | int _ | float _ | string _ => true
  | _ => false

/-- The family of a literal.  The null belongs to none. -/
def family? : Literal → Option Family
  | null => none
  | bool _ => some .bool
  | int _ | float _ => some .number
  | string _ => some .string
  | date _ => some .date
  | moment _ => some .moment
  | array _ => some .array
  | tuple _ => some .tuple

mutual

/-- Checks that every number is finite and every array of one family. -/
def validate : Literal → Except Invalid Unit
  | array items => validateArray none items
  | tuple items => validateTuple items
  | float x => if x.isFinite then .ok () else .error (.infiniteLiteral x)
  | _ => .ok ()

/-- Checks the items of an array behind items of the family `seen`, if there were any. -/
def validateArray (seen : Option Family) : List Literal → Except Invalid Unit
  | [] => .ok ()
  | item :: rest => do
    item.validate
    match item.family?, seen with
    | none, _ => validateArray seen rest
    | some family, none => validateArray (some family) rest
    | some family, some other =>
      if other = family then validateArray seen rest else .error .mixedArray

/-- Checks the items of a tuple. -/
def validateTuple : List Literal → Except Invalid Unit
  | [] => .ok ()
  | item :: rest => do
    item.validate
    validateTuple rest

end

mutual

/-- Equality of literals: floats are compared as numbers and moments as instants. -/
def same : Literal → Literal → Bool
  | null, null => true
  | bool a, bool b => a == b
  | int a, int b => a == b
  | float a, float b => a.sameNumber b
  | string a, string b => a == b
  | date a, date b => a == b
  | moment a, moment b => a.sameInstant b
  | array as, array bs => sameItems as bs
  | tuple as, tuple bs => sameItems as bs
  | _, _ => false

/-- Equality of lists of literals, item by item. -/
def sameItems : List Literal → List Literal → Bool
  | [], [] => true
  | a :: as, b :: bs => a.same b && sameItems as bs
  | _, _ => false

end

mutual

/-- The literal as a reader is shown it. -/
def outline : Literal → Outline
  | null => .atom "Null"
  | bool b => .tuple "Bool" [.atom (if b then "true" else "false")]
  | int n => .tuple "Int" [.int n.toInt]
  | float x => .tuple "Float" [.atom x.shown]
  | string s => .tuple "String" [.text s]
  | date d => .tuple "Date" [.atom d.text]
  | moment m => .tuple "DateTime" [.atom m.text]
  | array items => .tuple "Array" [.list (outlineItems items)]
  | tuple items => .tuple "Tuple" [.list (outlineItems items)]

/-- The items of an array or a tuple. -/
def outlineItems : List Literal → List Outline
  | [] => []
  | item :: rest => item.outline :: outlineItems rest

end

end Literal

/-- Equality of values that may be absent. -/
def sameOption {α : Type} (same : α → α → Bool) : Option α → Option α → Bool
  | none, none => true
  | some a, some b => same a b
  | _, _ => false

end MetricQuery
