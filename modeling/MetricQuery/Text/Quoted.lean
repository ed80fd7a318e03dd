import MetricQuery.Text.Visible

/-!
# Quoted text

Three ways to put a text between quotes.

* `quote`       : the literal of the query language. A quote and a backslash take a backslash, all
  else stands for itself;
* `quoteSingle` : the literal of the clause language. A single quote, a backslash and a line break
  take a backslash;
* `quoteShown`  : the form for a reader. Characters that do not show are spelled out by number.

A literal is made by one replacement after the other, the backslash first.  `replace_escape` and
`replace_escapeSingle` say what that makes of each character.
-/

set_option autoImplicit false

namespace MetricQuery.Text

/-- The text with `w` in place of each character `c`. -/
def replace (c : Char) (w : List Char) (s : List Char) : List Char :=
  s.flatMap fun x => if x = c then w else [x]

/-- A literal of the query language. -/
def quote (s : String) : String :=
  let escaped := replace '"' ['\\', '"'] (replace '\\' ['\\', '\\'] s.toList)
  "\"" ++ String.ofList escaped ++ "\""

/-- A literal of the clause language. -/
def quoteSingle (s : String) : String :=
  let escaped := replace '\n' ['\\', 'n']
    (replace '\x27' ['\\', '\x27'] (replace '\\' ['\\', '\\'] s.toList))
  "'" ++ String.ofList escaped ++ "'"

/-! ## One character of a literal -/

/-- One character of a literal of the query language. -/
def escape (c : Char) : List Char :=
  if c = '"' then ['\\', '"'] else if c = '\\' then ['\\', '\\'] else [c]

/-- One character of a literal of the clause language. -/
def escapeSingle (c : Char) : List Char :=
  if c = '\\' then ['\\', '\\']
  else if c = '\x27' then ['\\', '\x27']
  else if c = '\n' then ['\\', 'n']
  else [c]

theorem replace_eq (c : Char) (w s : List Char) :
    replace c w s = s.flatMap fun x => if x = c then w else [x] := rfl

/-- What a replacement makes of a text, it makes of its parts. -/
theorem replace_flatMap (c : Char) (w : List Char) (f : Char → List Char) (s : List Char) :
    replace c w (s.flatMap f) = s.flatMap fun x => replace c w (f x) :=
  List.flatMap_assoc

/-- A replacement spells out one character. -/
theorem replace_singleton (c : Char) (w : List Char) (x : Char) :
    replace c w [x] = if x = c then w else [x] := by
  rw [replace, List.flatMap_singleton]

/-- **The replacements of the query language take each character once.** -/
theorem replace_escape (s : List Char) :
    replace '"' ['\\', '"'] (replace '\\' ['\\', '\\'] s) = s.flatMap escape := by
  rw [replace_eq '\\', replace_flatMap]
  congr 1
  funext c
  unfold escape
  by_cases hslash : c = '\\'
  · subst hslash
    rfl
  · rw [if_neg hslash, replace_singleton]

/-- **The replacements of the clause language take each character once.** -/
theorem replace_escapeSingle (s : List Char) :
    replace '\n' ['\\', 'n']
      (replace '\x27' ['\\', '\x27'] (replace '\\' ['\\', '\\'] s)) = s.flatMap escapeSingle := by
  rw [replace_eq '\\', replace_flatMap, replace_flatMap]
  congr 1
  funext c
  unfold escapeSingle
  by_cases hslash : c = '\\'
  · subst hslash
    rfl
  · rw [if_neg hslash, if_neg hslash, replace_singleton]
    by_cases hquote : c = '\x27'
    · subst hquote
      rfl
    · rw [if_neg hquote, if_neg hquote, replace_singleton]

theorem toList_quote (s : String) :
    (quote s).toList = '"' :: (s.toList.flatMap escape ++ ['"']) := by
  simp [quote, replace_escape]

theorem toList_quoteSingle (s : String) :
    (quoteSingle s).toList = '\x27' :: (s.toList.flatMap escapeSingle ++ ['\x27']) := by
  simp [quoteSingle, replace_escapeSingle]

/-! ## Text for a reader -/

/-- A character by its number, in lower-case hexadecimal digits between braces. -/
def byNumber (c : Char) : List Char :=
  ['\\', 'u', '\x7b'] ++ Nat.toDigits 16 c.toNat ++ ['\x7d']

/-- One character as a reader is shown it. -/
def escapeShown (c : Char) : List Char :=
  if c = '"' then ['\\', '"']
  else if c = '\\' then ['\\', '\\']
  else if c = '\n' then ['\\', 'n']
  else if c = '\r' then ['\\', 'r']
  else if c = '\t' then ['\\', 't']
  else if c = '\x00' then ['\\', '0']
  else if isExtender c || isHidden c then byNumber c
  else [c]

/-- A text as a reader is shown it. -/
def quoteShown (s : String) : String :=
  "\"" ++ String.ofList (s.toList.flatMap escapeShown) ++ "\""

end MetricQuery.Text
