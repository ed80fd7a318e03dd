import MetricQuery.Grammar.Expression
import MetricQuery.Reduce

/-!
# Reading a query

* `lineAndColumn`      : the place in a text that so many bytes stand in front of;
* `SyntaxFault.locate` : a fault at such a place;
* `parse`              : the surface tree of a text, or the place where reading stopped;
* `Query.parse`        : the query that a text stands for.
-/

set_option autoImplicit false

namespace MetricQuery

/-! ## Places in a text -/

/-- How many bytes a text takes. -/
def byteLength : List Char → Nat
  | [] => 0
  | c :: rest => c.utf8Size + byteLength rest

/-- The characters that the first `n` bytes of a text make up. -/
def takeBytes : Nat → List Char → List Char
  | _, [] => []
  | n, c :: rest => if c.utf8Size ≤ n then c :: takeBytes (n - c.utf8Size) rest else []

/-- The line and the column behind the character `c`, which is at the place `place`.  Only a line
feed starts a line, and columns count characters. -/
def passCharacter (place : Nat × Nat) (c : Char) : Nat × Nat :=
  if c = '\n' then (place.1 + 1, 1) else (place.1, place.2 + 1)

/-- The line and the column of the place that `offset` bytes stand in front of. -/
def lineAndColumn (s : List Char) (offset : Nat) : Nat × Nat :=
  (takeBytes (min offset (byteLength s)) s).foldl passCharacter (1, 1)

/-- The fault in a text at the place that `offset` bytes stand in front of. -/
def SyntaxFault.locate (cause : SyntaxCause) (s : List Char) (offset : Nat) : SyntaxFault where
  cause := cause
  offset := offset
  line := (lineAndColumn s offset).1
  column := (lineAndColumn s offset).2

/-- How many bytes stand in front of the first character that is no blank. -/
def firstVisible? : List Char → Option Nat
  | [] => none
  | c :: rest =>
    if Text.isBlank c then (firstVisible? rest).map (c.utf8Size + ·) else some 0

/-- How many bytes of the text `s` stand in front of what is left over in its end `rest`, blanks
apart. -/
def trailingOffset (s rest : List Char) : Nat :=
  byteLength s - byteLength rest + (firstVisible? rest).getD 0

/-! ## Texts -/

/-- The expression that a trimmed text consists of.  Text that is left over is at fault from its
first character that is no blank; where there is no expression at all, the fault is where the
grammar stopped. -/
def parseTrimmed (s : List Char) : Except SyntaxFault Surface.Expression :=
  match (Scanner.labelled "MQL expression" Grammar.expression).scan s with
  | .ok (e, []) => .ok e
  | .ok (_, rest) => .error (.locate .trailing s (trailingOffset s rest))
  | .error failure =>
    .error (.locate (.failed (.backtrack failure.error)) s
      (byteLength s - byteLength failure.rest))

/-- A trimmed text is an expression if the grammar reads one off all of it. -/
theorem parseTrimmed_eq_ok {s : List Char} {e : Surface.Expression} :
    parseTrimmed s = .ok e ↔ Grammar.expression s = some (e, []) := by
  rw [← Scanner.labelled_apply "MQL expression", Scanner.read?_eq_some_iff]
  unfold parseTrimmed
  constructor
  · intro h
    split at h
    · rename_i e' hread
      cases h
      exact hread
    · cases h
    · cases h
  · intro h
    rw [h]

/-- The expression that a text consists of, blanks at its ends apart. -/
def parse (text : String) : Except SyntaxFault Surface.Expression :=
  parseTrimmed (Text.trim text.toList)

/-- The query that a text stands for. -/
def Query.parse (text : String) : Except QueryError Query :=
  match MetricQuery.parse text with
  | .ok e => e.query
  | .error fault => .error (.badSyntax fault)

end MetricQuery
