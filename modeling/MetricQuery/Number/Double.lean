/-!
# Double-precision numbers

A double is a sign and a magnitude `mantissa * 2 ^ exponent` in units of `2 ^ -1074`, or an
infinity, or not a number.  Every finite double has exactly one canonical magnitude: the mantissa
has at most 53 bits, and it has all of them unless the exponent is at its least.

* `Magnitude.nearest?`  : the magnitude nearest to a quotient of naturals, a tie going to the even
  mantissa, and none when the quotient is out of range;
* `Double.ofQuotient`   : the double nearest to a quotient, an infinity when it is out of range;
* `Double.ofDecimal`    : the double nearest to `digits * 10 ^ exponent`;
* `Double.sameNumber`   : numerical equality, under which the zeros agree and NaN equals nothing.
-/

set_option autoImplicit false

namespace MetricQuery

/-- The one way in which a magnitude is written. -/
def Canonical (mantissa exponent : Nat) : Prop :=
  mantissa < Nat.pow 2 53 ∧ (exponent = 0 ∨ Nat.pow 2 52 ≤ mantissa) ∧ exponent ≤ 2045

instance (mantissa exponent : Nat) : Decidable (Canonical mantissa exponent) :=
  inferInstanceAs (Decidable (_ ∧ _))

/-- The number `mantissa * 2 ^ exponent`, in units of `2 ^ -1074`. -/
structure Magnitude where
  mantissa : Nat
  exponent : Nat
  canonical : Canonical mantissa exponent
  deriving DecidableEq, Repr

namespace Magnitude

/-- How many units of `2 ^ -1074` make one. -/
def unitsInOne : Nat := Nat.pow 2 1074

/-- How many units of `2 ^ -1074` the magnitude has. -/
def units (x : Magnitude) : Nat := x.mantissa * Nat.pow 2 x.exponent

/-- The magnitude of zero. -/
def zero : Magnitude := ⟨0, 0, by decide⟩

/-- The natural number nearest to `num / den`, a tie going to the even one. -/
def roundHalfEven (num den : Nat) : Nat :=
  let q := num / den
  let r := num % den
  if 2 * r < den then q
  else if den < 2 * r then q + 1
  else if q % 2 = 0 then q else q + 1

/-- The exponent at which `units` has 53 bits, or the least exponent if it has fewer. -/
def exponentOf (units : Nat) : Nat := Nat.log2 units - 52

/-- A magnitude from a mantissa of at most 53 bits; rounding up may have brought it to `2 ^ 53`. -/
def ofParts? (mantissa exponent : Nat) : Option Magnitude :=
  let carried := mantissa = Nat.pow 2 53
  let m := if carried then Nat.pow 2 52 else mantissa
  let e := if carried then exponent + 1 else exponent
  if h : Canonical m e then some ⟨m, e, h⟩ else none

/-- The magnitude nearest to `num / den`, a tie going to the even mantissa.  There is none where
the quotient is nearer to `2 ^ 1024` than to any magnitude. -/
def nearest? (num den : Nat) : Option Magnitude :=
  let scaled := num * unitsInOne
  let e := exponentOf (scaled / den)
  ofParts? (roundHalfEven scaled (den * Nat.pow 2 e)) e

/-- Whether the magnitude is a whole number. -/
def isWhole (x : Magnitude) : Bool := x.units % unitsInOne == 0

/-- The whole number that the magnitude has before its fraction. -/
def floor (x : Magnitude) : Nat := x.units / unitsInOne

end Magnitude

/-- A double-precision number. -/
inductive Double where
  | nan
  | infinite (negative : Bool)
  | finite (negative : Bool) (magnitude : Magnitude)
  deriving DecidableEq, Repr

namespace Double

/-- The double of a magnitude, an infinity if there is none. -/
def ofMagnitude? (negative : Bool) : Option Magnitude → Double
  | some magnitude => finite negative magnitude
  | none => infinite negative

/-- The double nearest to `num / den`, with the sign given. -/
def ofQuotient (negative : Bool) (num den : Nat) : Double :=
  ofMagnitude? negative (Magnitude.nearest? num den)

/-- The double nearest to `digits * 10 ^ exponent`, with the sign given. -/
def ofDecimal (negative : Bool) (digits : Nat) (exponent : Int) : Double :=
  match exponent with
  | .ofNat n => ofQuotient negative (digits * Nat.pow 10 n) 1
  | .negSucc n => ofQuotient negative digits (Nat.pow 10 (n + 1))

/-- The double nearest to a natural number. -/
def ofNat (n : Nat) : Double := ofQuotient false n 1

/-- Neither an infinity nor NaN. -/
def isFinite : Double → Bool
  | finite _ _ => true
  | _ => false

/-- The number with the other sign. -/
def negate : Double → Double
  | nan => nan
  | infinite negative => infinite !negative
  | finite negative magnitude => finite (!negative) magnitude

/-- Numerical equality: the two zeros are equal, and NaN is equal to nothing. -/
def sameNumber : Double → Double → Bool
  | infinite a, infinite b => a == b
  | finite a x, finite b y => x == y && (a == b || x.mantissa == 0)
  | _, _ => false

@[simp] theorem isFinite_finite (negative : Bool) (x : Magnitude) :
    (finite negative x).isFinite = true := rfl

@[simp] theorem negate_negate (x : Double) : x.negate.negate = x := by
  cases x <;> simp [negate]

@[simp] theorem isFinite_negate (x : Double) : x.negate.isFinite = x.isFinite := by
  cases x <;> rfl

end Double

end MetricQuery
