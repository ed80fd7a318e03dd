import MetricQuery.Text.Join
import MetricQuery.Text.Quoted
import MetricQuery.Number.Layout

/-!
# Outlines

An outline shows a value to a reader as the tree of its named parts, on one line or with one part
on each line.

* `Outline`        : atoms, lists, and named parts in order or by field;
* `Outline.inline` : everything on one line;
* `Outline.block`  : a line for each part, indented by its depth.
-/

set_option autoImplicit false

namespace MetricQuery

/-- A value as the tree of its parts. -/
inductive Outline where
  | atom (text : String)
  | tuple (name : String) (parts : List Outline)
  | record (name : String) (fields : List (String × Outline))
  | list (items : List Outline)

namespace Outline

/-- A text, quoted. -/
def text (s : String) : Outline := atom (Text.quoteShown s)

/-- An integer. -/
def int (n : Int) : Outline := atom (integerText n)

/-- A value that may be absent. -/
def option {α : Type} (shown : α → Outline) : Option α → Outline
  | none => atom "None"
  | some a => tuple "Some" [shown a]

mutual

/-- The outline on one line. -/
def inline : Outline → String
  | atom text => text
  | tuple name parts => name ++ "(" ++ Text.join ", " (inlineParts parts) ++ ")"
  | record name fields => name ++ " \x7b " ++ Text.join ", " (inlineFields fields) ++ " \x7d"
  | list items => "[" ++ Text.join ", " (inlineParts items) ++ "]"

/-- Each part on one line. -/
def inlineParts : List Outline → List String
  | [] => []
  | o :: rest => o.inline :: inlineParts rest

/-- Each field on one line, after its name. -/
def inlineFields : List (String × Outline) → List String
  | [] => []
  | (name, o) :: rest => (name ++ ": " ++ o.inline) :: inlineFields rest

end

/-- The blanks in front of a line at the given depth. -/
def margin (depth : Nat) : String := String.ofList (List.replicate (4 * depth) ' ')

mutual

/-- The outline with a line for each part.  The first line has no margin, since it goes on behind
what is there. -/
def blockAt (depth : Nat) : Outline → String
  | atom text => text
  | tuple name parts =>
    name ++ "(\n" ++ blockParts (depth + 1) parts ++ margin depth ++ ")"
  | record name fields =>
    name ++ " \x7b\n" ++ blockFields (depth + 1) fields ++ margin depth ++ "\x7d"
  | list [] => "[]"
  | list (item :: items) =>
    "[\n" ++ (margin (depth + 1) ++ item.blockAt (depth + 1) ++ ",\n") ++
      blockParts (depth + 1) items ++ margin depth ++ "]"

/-- The lines of each part. -/
def blockParts (depth : Nat) : List Outline → String
  | [] => ""
  | o :: rest => margin depth ++ o.blockAt depth ++ ",\n" ++ blockParts depth rest

/-- The lines of each field. -/
def blockFields (depth : Nat) : List (String × Outline) → String
  | [] => ""
  | (name, o) :: rest =>
    margin depth ++ name ++ ": " ++ o.blockAt depth ++ ",\n" ++ blockFields depth rest

end

/-- The outline with a line for each part. -/
def block (o : Outline) : String := o.blockAt 0

end Outline

end MetricQuery
