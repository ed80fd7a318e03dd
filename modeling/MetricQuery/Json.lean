import MetricQuery.Text.Join
import MetricQuery.Number.Layout

/-!
# JSON

JSON values and how they are written.  Whole numbers are kept apart from other numbers, and the
fields of an object are kept in order.

* `Json.compact`   : the text without blanks;
* `Json.canonical` : the value with the fields of every object in the order of their names;
* `Json.indented`  : the text with one item on a line.
-/

set_option autoImplicit false

namespace MetricQuery

/-- A JSON value. -/
inductive Json where
  | null
  | bool (value : Bool)
  /-- A whole number without an exponent. -/
  | int (value : Int)
  /-- Any other number, as it is written. -/
  | decimal (text : String)
  | string (value : String)
  | array (items : List Json)
  | object (fields : List (String × Json))
  deriving Inhabited

namespace Json

/-! ## Writing -/

/-- One character of a string. -/
def escape (c : Char) : List Char :=
  if c = '"' then ['\\', '"']
  else if c = '\\' then ['\\', '\\']
  else if c = '\n' then ['\\', 'n']
  else if c = '\r' then ['\\', 'r']
  else if c = '\t' then ['\\', 't']
  else if c = '\x08' then ['\\', 'b']
  else if c = '\x0c' then ['\\', 'f']
  else if c.toNat < 0x20 then
    ['\\', 'u', '0', '0', Nat.digitChar (c.toNat / 16), Nat.digitChar (c.toNat % 16)]
  else [c]

/-- A string between quotes. -/
def quoted (s : String) : String := "\"" ++ String.ofList (s.toList.flatMap escape) ++ "\""

mutual

/-- The text without blanks. -/
def compact : Json → String
  | null => "null"
  | bool b => if b then "true" else "false"
  | int n => integerText n
  | decimal text => text
  | string s => quoted s
  | array items => "[" ++ Text.join "," (compactItems items) ++ "]"
  | object fields => "\x7b" ++ Text.join "," (compactFields fields) ++ "\x7d"

/-- The texts of items. -/
def compactItems : List Json → List String
  | [] => []
  | v :: rest => v.compact :: compactItems rest

/-- The texts of fields, each behind its name. -/
def compactFields : List (String × Json) → List String
  | [] => []
  | (name, v) :: rest => (quoted name ++ ":" ++ v.compact) :: compactFields rest

end

/-- The blanks in front of a line at the given depth. -/
def margin (depth : Nat) : String := String.ofList (List.replicate (2 * depth) ' ')

/-- Lines at the given depth between an opening and a closing sign. -/
def bracketed (opening closing : String) (depth : Nat) : List String → String
  | [] => opening ++ closing
  | lines =>
    opening ++ "\n" ++
      Text.join ",\n" (lines.map fun line => margin (depth + 1) ++ line) ++
      "\n" ++ margin depth ++ closing

mutual

/-- The text with one item on a line.  The first line has no margin, since it goes on behind what
is there. -/
def indentedAt (depth : Nat) : Json → String
  | array items => bracketed "[" "]" depth (indentedItems (depth + 1) items)
  | object fields => bracketed "\x7b" "\x7d" depth (indentedFields (depth + 1) fields)
  | null => compact null
  | bool b => compact (bool b)
  | int n => compact (int n)
  | decimal text => compact (decimal text)
  | string s => compact (string s)

/-- The texts of items. -/
def indentedItems (depth : Nat) : List Json → List String
  | [] => []
  | v :: rest => v.indentedAt depth :: indentedItems depth rest

/-- The texts of fields, each behind its name. -/
def indentedFields (depth : Nat) : List (String × Json) → List String
  | [] => []
  | (name, v) :: rest =>
    (quoted name ++ ": " ++ v.indentedAt depth) :: indentedFields depth rest

end

/-- The text with one item on a line. -/
def indented (v : Json) : String := v.indentedAt 0

/-! ## The order of fields -/

/-- The fields with one more, put where its name belongs.  A field of the same name is replaced. -/
def insertField (name : String) (v : Json) : List (String × Json) → List (String × Json)
  | [] => [(name, v)]
  | (other, w) :: rest =>
    if name < other then (name, v) :: (other, w) :: rest
    else if name = other then (name, v) :: rest
    else (other, w) :: insertField name v rest

mutual

/-- The value with the fields of every object in the order of their names.  Of fields of one name
the last counts. -/
def canonical : Json → Json
  | array items => array (canonicalItems items)
  | object fields => object (canonicalFields [] fields)
  | null => null
  | bool b => bool b
  | int n => int n
  | decimal text => decimal text
  | string s => string s

/-- The items of an array, each in order. -/
def canonicalItems : List Json → List Json
  | [] => []
  | v :: rest => v.canonical :: canonicalItems rest

/-- The fields that are in order already, with more fields put where they belong. -/
def canonicalFields (done : List (String × Json)) : List (String × Json) → List (String × Json)
  | [] => done
  | (name, v) :: rest => canonicalFields (insertField name v.canonical done) rest

end

end Json

end MetricQuery
