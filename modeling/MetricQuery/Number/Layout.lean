import MetricQuery.Number.Shortest

/-!
# Numbers as text

How integers and doubles are written, and how their texts are read.

* `Double.plain`    : the fewest digits, never with an exponent and without a point for a whole
  number;
* `Double.literal`  : a literal of the two query languages: a whole number is written exactly, and
  with one decimal;
* `Double.shown`    : the form for a reader, with an exponent for very large and very small numbers;
* `readNat?`        : a natural number, digits only;
* `Double.ofDigits` : the double that a whole part and a fraction stand for.
-/

set_option autoImplicit false

namespace MetricQuery

/-- The natural numbers below this one are integers of a query. -/
def integerBound : Nat := 9223372036854775808

/-- The digits of a natural number, in base ten. -/
def digitsOf (n : Nat) : String := String.ofList (Nat.toDigits 10 n)

/-- An integer: its digits, after a minus if it is negative. -/
def integerText : Int → String
  | .ofNat n => digitsOf n
  | .negSucc n => "-" ++ digitsOf (n + 1)

/-- The natural number that digits stand for. -/
def valueOf (digits : List Char) : Nat := Nat.ofDigitChars 10 digits 0

/-- A natural number, written with one or more digits and nothing else. -/
def readNat? (s : List Char) : Option Nat :=
  if s.isEmpty || s.any (fun c => !c.isDigit) then none else some (valueOf s)

namespace Decimal

/-- The digits of a decimal as text. -/
def text (d : Decimal) : List Char := Nat.toDigits 10 d.digits

/-- How many digits stand before the decimal point. -/
def point (d : Decimal) : Int := d.text.length + d.exponent

/-- Positional notation, without a point for a whole number. -/
def positional (d : Decimal) : String :=
  let ds := d.text
  match d.exponent with
  | .ofNat n => String.ofList (ds ++ List.replicate n '0')
  | .negSucc n =>
    let places := n + 1
    if places < ds.length then
      String.ofList (ds.take (ds.length - places)) ++ "." ++
        String.ofList (ds.drop (ds.length - places))
    else "0." ++ String.ofList (List.replicate (places - ds.length) '0' ++ ds)

/-- Notation with an exponent: one digit before the point. -/
def scientific (d : Decimal) : String :=
  let fraction := d.text.drop 1
  String.ofList (d.text.take 1) ++
    (if fraction.isEmpty then "" else "." ++ String.ofList fraction) ++
    "e" ++ integerText (d.point - 1)

end Decimal

namespace Magnitude

/-- The fewest digits, with no zero at their end; zero itself is one digit. -/
def digits (x : Magnitude) : Decimal :=
  if x.mantissa = 0 then ⟨0, 0⟩ else Decimal.stripZeros 400 x.shortest

end Magnitude

namespace Double

/-- The sign that is written in front of the digits. -/
def signText (negative : Bool) : String := if negative then "-" else ""

/-- The fewest digits in positional notation. -/
def plain : Double → String
  | nan => "NaN"
  | infinite negative => signText negative ++ "inf"
  | finite negative x => signText negative ++ x.digits.positional

/-- A literal: a whole number is written exactly and with one decimal, so that it reads back as a
number with a fraction. -/
def literal : Double → String
  | finite negative x =>
    if x.isWhole then signText negative ++ digitsOf x.floor ++ ".0"
    else plain (finite negative x)
  | x => plain x

/-- The first exponent that is shown as such. -/
def largestPoint : Int := 16

/-- The last number of places before the point that is shown positionally. -/
def smallestPoint : Int := -3

/-- The form for a reader: always a point or an exponent, the latter from `1e16` on and below
`1e-4`. -/
def shown : Double → String
  | nan => "NaN"
  | infinite negative => signText negative ++ "inf"
  | finite negative x =>
    let d := x.digits
    let text :=
      if x.mantissa = 0 then "0.0"
      else if largestPoint < d.point || d.point < smallestPoint then d.scientific
      else if 0 ≤ d.exponent then d.positional ++ ".0"
      else d.positional
    signText negative ++ text

/-- The number that the digits of a whole part and of a fraction stand for. -/
def ofDigits (whole fraction : List Char) : Double :=
  ofDecimal false (valueOf (whole ++ fraction)) (-(fraction.length : Int))

end Double

end MetricQuery
