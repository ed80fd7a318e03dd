import MetricQuery.Json
import MetricQuery.Text.Scanner

/-!
# Reading JSON

* `Json.value` : a JSON value at the front of a text;
* `Json.read?` : the JSON value that a text consists of.
-/

set_option autoImplicit false

namespace MetricQuery.Json

open Scanner

/-- A blank between the parts of a JSON text. -/
def isSpace (c : Char) : Bool := c == ' ' || c == '\n' || c == '\r' || c == '\t'

/-- Blanks, if there are any. -/
def spaces : Scanner Unit := do
  let _ ← takeWhile isSpace
  pure ()

/-! ## Strings -/

/-- The value of a hexadecimal digit. -/
def hexValue? (c : Char) : Option Nat :=
  if c.isDigit then some (c.toNat - '0'.toNat)
  else if 'a' ≤ c ∧ c ≤ 'f' then some (c.toNat - 'a'.toNat + 10)
  else if 'A' ≤ c ∧ c ≤ 'F' then some (c.toNat - 'A'.toNat + 10)
  else none

/-- The number that four hexadecimal digits stand for. -/
def hexNumber? (a b c d : Char) : Option Nat := do
  let a ← hexValue? a
  let b ← hexValue? b
  let c ← hexValue? c
  let d ← hexValue? d
  pure (((a * 16 + b) * 16 + c) * 16 + d)

/-- The character that a letter behind a backslash stands for. -/
def escapedBy? (c : Char) : Option Char :=
  if c = '"' ∨ c = '\\' ∨ c = '/' then some c
  else if c = 'b' then some '\x08'
  else if c = 'f' then some '\x0c'
  else if c = 'n' then some '\n'
  else if c = 'r' then some '\r'
  else if c = 't' then some '\t'
  else none

/-- The string up to the quote that ends it, and what stands behind the quote.  Characters are given
by number; one above U+FFFF may have been written as two halves, which are still apart. -/
def splitString? : List Char → Option (List Nat × List Char)
  | [] => none
  | '"' :: rest => some ([], rest)
  | '\\' :: 'u' :: a :: b :: c :: d :: rest =>
    match hexNumber? a b c d with
    | some n => (splitString? rest).map fun (ns, rest) => (n :: ns, rest)
    | none => none
  | '\\' :: c :: rest =>
    match escapedBy? c with
    | some c => (splitString? rest).map fun (ns, rest) => (c.toNat :: ns, rest)
    | none => none
  | c :: rest =>
    if c.toNat < 0x20 ∨ c = '\\' then none
    else (splitString? rest).map fun (ns, rest) => (c.toNat :: ns, rest)

/-- The rest of a string, up to and with the quote that ends it. -/
def stringRest : Scanner (List Nat) := ofOption splitString?

/-- Whether the number is that of a first half. -/
def isFirstHalf (n : Nat) : Bool := 0xD800 ≤ n && n < 0xDC00

/-- Whether the number is that of a second half. -/
def isSecondHalf (n : Nat) : Bool := 0xDC00 ≤ n && n < 0xE000

/-- The characters of numbers, halves being put together.  A half alone is no character. -/
def joinHalves? : List Nat → Option (List Char)
  | [] => some []
  | [n] => if isFirstHalf n || isSecondHalf n then none else some [Char.ofNat n]
  | n :: m :: rest =>
    if isFirstHalf n then
      if isSecondHalf m then
        (joinHalves? rest).map (Char.ofNat (0x10000 + (n - 0xD800) * 0x400 + (m - 0xDC00)) :: ·)
      else none
    else if isSecondHalf n then none
    else (joinHalves? (m :: rest)).map (Char.ofNat n :: ·)

/-- A string between quotes. -/
def stringText : Scanner String := do
  char '"'
  let ns ← stringRest
  match joinHalves? ns with
  | some cs => pure (String.ofList cs)
  | none => fail

/-! ## Numbers -/

/-- Digits of a whole part: a zero alone, or digits that start with another. -/
def wholePart : Scanner (List Char) := ofOption fun
  | '0' :: rest => some (['0'], rest)
  | s => takeSome Char.isDigit s

/-- The point and the digits behind it. -/
def fractionPart : Scanner (List Char) := do
  char '.'
  let digits ← takeSome Char.isDigit
  pure ('.' :: digits)

/-- The sign of an exponent. -/
def exponentSign : Scanner (List Char) := ofOption fun
  | '+' :: rest => some (['+'], rest)
  | '-' :: rest => some (['-'], rest)
  | s => some ([], s)

/-- The exponent. -/
def exponentPart : Scanner (List Char) := do
  firstOf [char 'e', char 'E']
  let sign ← exponentSign
  let digits ← takeSome Char.isDigit
  pure ('e' :: sign ++ digits)

/-- A number.  Minus zero is no whole number. -/
def number : Scanner Json := do
  let negative ← flag '-'
  let whole ← wholePart
  let fraction ← attempt fractionPart
  let exponent ← attempt exponentPart
  if fraction.isNone ∧ exponent.isNone ∧ !(negative && valueOf whole == 0) then
    pure (.int (if negative then -(valueOf whole : Int) else valueOf whole))
  else
    pure (.decimal (String.ofList
      ((if negative then ['-'] else []) ++ whole ++ fraction.getD [] ++ exponent.getD [])))

/-! ## Values -/

/-- A comma with blanks around it. -/
def comma : Scanner Unit := do
  spaces
  char ','
  spaces

/-- Items with commas between them, or none, and the sign that closes them. -/
def listOf {α : Type} (item : Scanner α) (closing : Char) : Scanner (List α) := do
  spaces
  let items ← attempt (sepBy item comma)
  spaces
  char closing
  pure (items.getD [])

/-- A field: its name and its value. -/
def field (value : Scanner Json) : Scanner (String × Json) := do
  let name ← stringText
  spaces
  char ':'
  spaces
  let v ← value
  pure (name, v)

/-- A value whose parts are read by `nested`. -/
def valueOver (nested : Scanner Json) : Scanner Json :=
  firstOf
    [do word "null"; pure .null,
     do word "true"; pure (.bool true),
     do word "false"; pure (.bool false),
     number,
     do let s ← stringText; pure (.string s),
     do
      char '['
      let items ← listOf nested ']'
      pure (.array items),
     do
      char '\x7b'
      let fields ← listOf (field nested) '\x7d'
      pure (.object fields)]

/-- A value with parts nested less than `depth` deep. -/
def valueWithin : Nat → Scanner Json
  | 0 => fail
  | depth + 1 => valueOver (valueWithin depth)

/-- A value.  Its parts are nested no deeper than the text is long. -/
def value : Scanner Json := bounded valueWithin

/-- The value that a text consists of, blanks at its ends apart. -/
def read? (text : String) : Option Json :=
  (do spaces; let v ← value; spaces; pure v : Scanner Json).whole? text.toList

end MetricQuery.Json
