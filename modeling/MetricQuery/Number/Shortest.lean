import MetricQuery.Number.Double

/-!
# The fewest digits that read back

A finite double other than zero is written with the fewest decimal digits from which the reader
gets it back.  For each number of digits the two neighbours of the value on that decimal grid are
tried, by reading them; of two that read back the nearer is taken, and the upper one of a tie.

* `Decimal`                  : a number `digits * 10 ^ exponent`;
* `Magnitude.shortest`       : the fewest digits of a magnitude;
* `Magnitude.read?_onGrid?`   : what is found on a grid reads back.
-/

set_option autoImplicit false

namespace MetricQuery

/-- The number `digits * 10 ^ exponent`. -/
structure Decimal where
  digits : Nat
  exponent : Int
  deriving DecidableEq, Repr

namespace Decimal

/-- The quotient of naturals that a decimal stands for. -/
def quotient (d : Decimal) : Nat × Nat :=
  match d.exponent with
  | .ofNat n => (d.digits * Nat.pow 10 n, 1)
  | .negSucc n => (d.digits, Nat.pow 10 (n + 1))

/-- The magnitude nearest to a decimal. -/
def read? (d : Decimal) : Option Magnitude := Magnitude.nearest? d.quotient.1 d.quotient.2

/-- The same number with no zero at the end of its digits. -/
def stripZeros : Nat → Decimal → Decimal
  | 0, d => d
  | n + 1, d =>
    if d.digits % 10 = 0 ∧ d.digits ≠ 0 then stripZeros n ⟨d.digits / 10, d.exponent + 1⟩ else d

end Decimal

namespace Magnitude

/-- How many digits stand before the decimal point of `num / den`, which is not zero: the least
`k` with `num / den < 10 ^ k`. -/
def pointPosition (num den : Nat) : Int :=
  if den ≤ num then (Nat.toDigits 10 (num / den)).length
  else 1 - ((Nat.toDigits 10 (den / num)).length : Int)

/-- The grid points below and above `num / den` on the grid of `10 ^ exponent`, and whether the
upper one is at most as far away. -/
def neighbours (num den : Nat) (exponent : Int) : Decimal × Decimal × Bool :=
  let (n, d) := match exponent with
    | .ofNat k => (num, den * Nat.pow 10 k)
    | .negSucc k => (num * Nat.pow 10 (k + 1), den)
  (⟨n / d, exponent⟩, ⟨n / d + 1, exponent⟩, d ≤ 2 * (n % d))

/-- The first of two decimals that reads back as `x`. -/
def firstReading? (x : Magnitude) (a b : Decimal) : Option Decimal :=
  if a.read? = some x then some a else if b.read? = some x then some b else none

/-- The grid point to write `x` with, if one of its neighbours on the grid reads back. -/
def onGrid? (x : Magnitude) (exponent : Int) : Option Decimal :=
  match neighbours x.units unitsInOne exponent with
  | (lower, upper, true) => firstReading? x upper lower
  | (lower, upper, false) => firstReading? x lower upper

/-- The exact value, which has a finite decimal expansion since two divides ten. -/
def exact (x : Magnitude) : Decimal := ⟨x.units * Nat.pow 5 1074, -1074⟩

/-- The numbers of digits to try, fewest first.  Seventeen are always enough. -/
def digitCounts : List Nat := List.range' 1 17

/-- The fewest digits that read back as `x`. -/
def shortest (x : Magnitude) : Decimal :=
  let point := pointPosition x.units unitsInOne
  match digitCounts.findSome? (fun count => onGrid? x (point - (count : Nat))) with
  | some d => d
  | none => exact x

/-- The first that reads back does. -/
theorem read?_firstReading? {x : Magnitude} {a b d : Decimal}
    (h : firstReading? x a b = some d) : d.read? = some x := by
  unfold firstReading? at h
  split at h
  · next found => exact Option.some.inj h ▸ found
  · split at h
    · next found => exact Option.some.inj h ▸ found
    · cases h

/-- What is found on a grid reads back. -/
theorem read?_onGrid? {x : Magnitude} {exponent : Int} {d : Decimal}
    (h : onGrid? x exponent = some d) : d.read? = some x := by
  unfold onGrid? at h
  split at h <;> exact read?_firstReading? h

end Magnitude

end MetricQuery
