import MetricQuery.Grammar.Token

/-!
# The grammar of filters and groupings

A filter is a list of terms with `OR` between them, and a term is a list of factors with a comma,
with `AND` or with nothing between them.  A factor is a condition on a tag, or a filter in
parentheses.

* `tagValue`  : what a tag is compared with;
* `tagFilter` : a filter;
* `braces`    : a filter between braces, or nothing between them;
* `groupBy`   : a grouping.
-/

set_option autoImplicit false

namespace MetricQuery.Grammar

open Scanner Surface

/-! ## Conditions -/

/-- What a condition is about. -/
def tagKey : Scanner TagKey :=
  firstOf
    [do let v ← variableName; pure (.variable v),
     do let k ← name; pure (.name k)]

/-- Texts in square brackets. -/
def stringList : Scanner (List String) :=
  between (do char '['; blanks) (sepBy (firstOf [quoted, unquoted]) comma)
    (do blanks; char ']')

/-- What a tag is compared with. -/
def tagValue : Scanner TagValue :=
  firstOf
    [do let s ← between (char '"') pattern (char '"'); pure (.wildcard s),
     do let s ← pattern; pure (.wildcard s),
     do let s ← quoted; pure (.string s),
     do let s ← unquoted; pure (.string s),
     do let items ← stringList; pure (.list items),
     do let v ← variableName; pure (.variable v)]

/-- A condition, behind an exclamation mark if it is negated. -/
def condition : Scanner TagFactor := do
  let negated ← flag '!'
  let key ← tagKey
  blanks
  char ':'
  blanks
  let value ← tagValue
  pure (.condition negated key value)

/-! ## Filters -/

/-- A word in capital or small letters that no name goes on from. -/
def keyword (capital small : String) : Scanner Unit := do
  firstOf [word capital, word small]
  notNext isNameChar

/-- What may stand between two factors. -/
def joint : Scanner Unit := firstOf [char ',', keyword "AND" "and"]

/-- A factor; `nested` reads the filter in parentheses. -/
def tagFactor (nested : Scanner TagFilter) : Scanner TagFactor :=
  firstOf
    [condition,
     do let terms ← parens nested; pure (.nested terms)]

/-- A term.  A factor is looked for behind a joint first and then without one, so that a key may
be spelled like a joint. -/
def tagTerm (nested : Scanner TagFilter) : Scanner TagTerm := do
  let first ← tagFactor nested
  let rest ← many (do
    blanks
    firstOf
      [do joint; blanks; tagFactor nested,
       tagFactor nested])
  pure (first :: rest)

/-- A filter whose parentheses are read by `nested`. -/
def tagFilterOver (nested : Scanner TagFilter) : Scanner TagFilter := do
  let first ← tagTerm nested
  let rest ← many (do
    blanks
    keyword "OR" "or"
    blanks
    tagTerm nested)
  pure (first :: rest)

/-- A filter with parentheses nested less than `depth` deep. -/
def tagFilterWithin : Nat → Scanner TagFilter
  | 0 => fail
  | depth + 1 => tagFilterOver (tagFilterWithin depth)

/-- A filter.  Its parentheses are nested no deeper than the text is long. -/
def tagFilter : Scanner TagFilter := bounded tagFilterWithin

/-- A filter between braces, or nothing between them. -/
def braces : Scanner (Option TagFilter) :=
  between (char '\x7b') (attempt (between blanks tagFilter blanks)) (char '\x7d')

/-- Braces, or none of them. -/
def optionalBraces : Scanner (Option TagFilter) := do
  let found ← attempt braces
  pure found.join

/-! ## Groupings -/

/-- A column, or columns in parentheses. -/
def groupBy : Scanner (List String) := do
  blanks
  word "by"
  blanks
  firstOf
    [do let n ← name; pure [n],
     parens (sepBy name comma)]

end MetricQuery.Grammar
