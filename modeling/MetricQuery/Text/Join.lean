/-!
# Joined text

* `join` : the texts of a list with a separator between neighbours.
-/

set_option autoImplicit false

namespace MetricQuery.Text

/-- The texts in order, with `sep` between neighbours. -/
def join (sep : String) : List String → String
  | [] => ""
  | [s] => s
  | s :: t :: rest => s ++ sep ++ join sep (t :: rest)

end MetricQuery.Text
