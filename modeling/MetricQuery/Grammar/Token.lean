import MetricQuery.Grammar.Character
import MetricQuery.Metric
import MetricQuery.Surface
import MetricQuery.Number.Layout

/-!
# The words of the query language

Names, variables, numbers, texts and metrics.

* `name`, `functionName`, `variableName` : what is called by a name;
* `floatNumeral`, `intNumeral`           : numbers without a sign;
* `quoted`, `unquoted`                   : texts with and without quotes around them;
* `metric`                               : a resource identifier or a public name, bare or between
  back quotes.
-/

set_option autoImplicit false

namespace MetricQuery.Grammar

open Scanner Surface

/-! ## Names -/

/-- The name of a tag or of a column. -/
def name : Scanner String := do
  let cs ← takeSome isNameChar
  pure (String.ofList cs)

/-- The name of a function. -/
def functionName : Scanner String := do
  let cs ← takeSome isFunctionChar
  pure (String.ofList cs)

/-- The name of a variable, behind its dollar sign. -/
def variableName : Scanner String := do
  char '$'
  name

/-! ## Numbers -/

/-- A number with a fraction: digits on both sides of a point. -/
def floatNumeral : Scanner Double := do
  let whole ← takeSome Char.isDigit
  char '.'
  let fraction ← takeSome Char.isDigit
  pure (Double.ofDigits whole fraction)

/-- A whole number that is no greater than the greatest integer. -/
def intNumeral : Scanner Int64 :=
  convert (takeSome Char.isDigit) fun digits =>
    if valueOf digits < integerBound then .ok (Int64.ofNat (valueOf digits))
    else .error "number too large to fit in target type"

/-! ## Texts -/

/-- The text up to the quote that ends it, and what stands behind the quote.  A backslash in front
of a quote or of a backslash is dropped; any other backslash stands for itself. -/
def splitQuoted? : List Char → Option (List Char × List Char)
  | [] => none
  | '"' :: rest => some ([], rest)
  | ['\\'] => none
  | '\\' :: c :: rest =>
    (splitQuoted? rest).map fun (cs, rest) =>
      (if c = '"' ∨ c = '\\' then c :: cs else '\\' :: c :: cs, rest)
  | c :: rest => (splitQuoted? rest).map fun (cs, rest) => (c :: cs, rest)

/-- The rest of a quoted text, up to and with the quote that ends it.  That the quote is missing
shows at the end of the text only. -/
def quotedRest : Scanner (List Char) := ⟨fun s =>
  match splitQuoted? s with
  | some found => .ok found
  | none => .error { rest := [] }⟩

theorem quotedRest_apply (s : List Char) : quotedRest s = splitQuoted? s := by
  unfold read? quotedRest
  dsimp only
  cases splitQuoted? s <;> rfl

/-- A text between quotes. -/
def quoted : Scanner String := do
  char '"'
  let cs ← quotedRest
  pure (String.ofList cs)

/-- A text without quotes. -/
def unquoted : Scanner String := do
  let cs ← takeSome isUnquoted
  pure (String.ofList cs)

/-- A text without quotes and the star behind it. -/
def pattern : Scanner String := do
  let cs ← takeSome isUnquoted
  char '*'
  pure (String.ofList (cs ++ ['*']))

/-- A comma with blanks around it. -/
def comma : Scanner Unit := do
  blanks
  char ','
  blanks

/-- What stands in parentheses, with blanks inside them. -/
def parens {α : Type} (body : Scanner α) : Scanner α :=
  between (do char '('; blanks) body (do blanks; char ')')

/-! ## Metrics -/

/-- The resource identifier between back quotes. -/
def quotedMri : Scanner (List Char) :=
  Mri.segments (fun c => c != ':' && c != backQuote) (fun c => c != '/' && c != backQuote)
    (fun c => c != '@' && c != ',' && c != backQuote) (· != backQuote)

/-- A bare resource identifier. -/
def bareMri : Scanner (List Char) :=
  Mri.segments (fun c => isMriChar c && c != ':') (fun c => isMriChar c && c != '/')
    (fun c => isMriChar c && c != '@') isMriChar

/-- Parts of a public name with points between them. -/
def publicName : Scanner (List Char) := do
  let first ← takeSome isPublicChar
  let rest ← many (do
    char '.'
    let part ← takeSome isPublicChar
    pure ('.' :: part))
  pure (first ++ rest.flatten)

/-- What stands between back quotes. -/
def backQuoted {α : Type} (body : Scanner α) : Scanner α :=
  between (char backQuote) body (char backQuote)

/-- A metric. -/
def metric : Scanner MetricRef :=
  firstOf
    [do let cs ← backQuoted quotedMri; pure (.mri (String.ofList cs)),
     do let cs ← bareMri; pure (.mri (String.ofList cs)),
     do let cs ← backQuoted publicName; pure (.publicName (String.ofList cs)),
     do let cs ← publicName; pure (.publicName (String.ofList cs))]

end MetricQuery.Grammar
