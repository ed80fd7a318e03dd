import MetricQuery.Text.Blank

/-!
# The characters of the query language

Which characters make up names, resource identifiers and texts without quotes.

* `isNameChar`, `isFunctionChar`, `isPublicChar`, `isMriChar` : the characters of names;
* `isUnquoted`                                                : those of texts without quotes;
* `isName`, `isBareMri`, `isPrefixPattern`                    : whole texts of them.
-/

set_option autoImplicit false

namespace MetricQuery.Grammar

/-- The back quote. -/
def backQuote : Char := '\x60'

/-- A character of a tag key, of a variable's name and of a grouping's column. -/
def isNameChar (c : Char) : Bool := c.isAlphanum || c == '_' || c == '.'

/-- A character of a function's name. -/
def isFunctionChar (c : Char) : Bool := c.isAlphanum || c == '_'

/-- A character of a public name, points between its parts apart. -/
def isPublicChar (c : Char) : Bool := c.isLower || c == '_'

/-- A character of a resource identifier that is not between back quotes. -/
def isMriChar (c : Char) : Bool :=
  !Text.isBlank c && c != '(' && c != ')' && c != '\x7b' && c != '\x7d' && c != '[' && c != ']' &&
    c != '"' && c != backQuote && c != ','

/-- A character of a text that is not between quotes. -/
def isUnquoted (c : Char) : Bool :=
  !Text.isBlank c && c != ',' && c != '[' && c != ']' && c != '"' && c != '\x7b' && c != '\x7d' &&
    c != '(' && c != ')' && c != '*'

/-- Whether a text is the name of a tag or of a column. -/
def isName (s : List Char) : Bool := !s.isEmpty && s.all isNameChar

/-- Whether a resource identifier can do without back quotes. -/
def isBareMri (s : List Char) : Bool := s.all isMriChar

/-- Whether a text is a pattern that matches by the start of a text: one character or more, and a
star at the end. -/
def isPrefixPattern (s : List Char) : Bool :=
  match s.reverse with
  | '*' :: stem => !stem.isEmpty && stem.all isUnquoted
  | _ => false

end MetricQuery.Grammar
