/-!
# Classes of characters given by ranges

A property of characters is written down as the list of the ranges of code points that have it.
-/

set_option autoImplicit false

namespace MetricQuery.Text

/-- Whether the character's code point lies in one of the ranges, ends included. -/
def within (ranges : List (Nat × Nat)) (c : Char) : Bool :=
  ranges.any fun (lo, hi) => lo ≤ c.toNat && c.toNat ≤ hi

end MetricQuery.Text
