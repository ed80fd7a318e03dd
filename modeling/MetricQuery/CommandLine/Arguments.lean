import MetricQuery.Rollup
import MetricQuery.Time.Reader

/-!
# Arguments of the command line

A query, settings with a value each, and switches.  A setting's value follows its name, behind an
equals sign or as the next argument; behind two hyphens everything is a query.  Only the
organisations and the projects may be given more than once.

* `Given.scan`      : the arguments, told apart;
* `Arguments.parse` : what they say, or what is wrong with them.
-/

set_option autoImplicit false

namespace MetricQuery.CommandLine

/-- What is printed. -/
inductive Format where
  | json
  | mql
  | snql
  | ast
  deriving DecidableEq, Repr

/-- The format of the given name. -/
def Format.ofText? (s : String) : Option Format :=
  if s = "json" then some json
  else if s = "mql" then some mql
  else if s = "snql" then some snql
  else if s = "ast" then some ast
  else none

/-- The order of the given name. -/
def orderOfText? (s : String) : Option Direction :=
  if s = "asc" then some .ascending else if s = "desc" then some .descending else none

/-- What is given with a value. -/
inductive Setting where
  | format
  | start
  | ending
  | interval
  | granularity
  | orderby
  | orgId
  | projectId
  | useCaseId
  | entity
  | metricId
  | limit
  | offset
  deriving DecidableEq, Repr

namespace Setting

/-- The name of the setting, without the hyphens in front of it. -/
def name : Setting → String
  | format => "format"
  | start => "start"
  | ending => "end"
  | interval => "interval"
  | granularity => "granularity"
  | orderby => "orderby"
  | orgId => "org-id"
  | projectId => "project-id"
  | useCaseId => "use-case-id"
  | entity => "entity"
  | metricId => "metric-id"
  | limit => "limit"
  | offset => "offset"

/-- Every setting. -/
def all : List Setting :=
  [format, start, ending, interval, granularity, orderby, orgId, projectId, useCaseId, entity,
   metricId, limit, offset]

/-- The setting of the given name. -/
def ofName? (s : String) : Option Setting := all.find? fun setting => setting.name == s

@[simp] theorem ofName?_name (s : Setting) : ofName? s.name = some s := by
  cases s <;> decide

end Setting

/-- What is given without a value. -/
inductive Switch where
  | totals
  | noOptimize
  deriving DecidableEq, Repr

/-- The switch of the given name. -/
def Switch.ofName? (s : String) : Option Switch :=
  if s = "totals" then some totals else if s = "no-optimize" then some noOptimize else none

/-- What is wrong with the arguments. -/
inductive UsageError where
  | unknown (arg : String)
  | missingValue (setting : Setting)
  | unexpectedValue (arg : String)
  | badValue (setting : Setting) (value : String)
  | repeated (arg : String)
  | extraQuery (arg : String)
  deriving DecidableEq, Repr

/-- The message for the user. -/
def UsageError.message : UsageError → String
  | unknown arg => "unexpected argument '" ++ arg ++ "' found"
  | missingValue setting => "a value is required for '--" ++ setting.name ++ "' but none was supplied"
  | unexpectedValue arg => "unexpected value in '" ++ arg ++ "' found; no more were expected"
  | badValue setting value => "invalid value '" ++ value ++ "' for '--" ++ setting.name ++ "'"
  | repeated arg => "the argument '--" ++ arg ++ "' cannot be used multiple times"
  | extraQuery arg => "unexpected argument '" ++ arg ++ "' found"

/-! ## Telling arguments apart -/

/-- One thing that is given. -/
inductive Given where
  | setting (setting : Setting) (value : String)
  | switch (switch : Switch)
  | query (text : String)
  deriving DecidableEq, Repr

/-- Whether an argument is the name of a setting or a switch, and so no value.  A hyphen alone is
a value. -/
def isOption (arg : String) : Bool :=
  match arg.toList with
  | '-' :: _ :: _ => true
  | _ => false

/-- What one argument says by itself. -/
inductive Reading where
  /-- Everything behind it is a query. -/
  | escape
  /-- It is complete. -/
  | complete (given : Given)
  /-- It needs the next argument as its value. -/
  | needsValue (setting : Setting)
  | wrong (error : UsageError)

/-- The name in front of an equals sign, and the value behind it if there is such a sign. -/
def splitValue (s : List Char) : String × Option String :=
  (String.ofList (s.takeWhile (· != '=')),
   match s.dropWhile (· != '=') with
   | [] => none
   | _ :: value => some (String.ofList value))

/-- What an argument with two hyphens says. -/
def Reading.ofLong (arg : String) (long : List Char) : Reading :=
  let (name, value?) := splitValue long
  match Setting.ofName? name, Switch.ofName? name, value? with
  | some s, _, some value => .complete (.setting s value)
  | some s, _, none => .needsValue s
  | none, some w, none => .complete (.switch w)
  | none, some _, some _ => .wrong (.unexpectedValue arg)
  | none, none, _ => .wrong (.unknown arg)

/-- What an argument with one hyphen says.  The only letter there is is that of the format. -/
def Reading.ofShort (arg : String) : List Char → Reading
  | ['f'] => .needsValue .format
  | 'f' :: '=' :: value => .complete (.setting .format (String.ofList value))
  | 'f' :: value => .complete (.setting .format (String.ofList value))
  | _ => .wrong (.unknown arg)

/-- What an argument says. -/
def Reading.ofArgument (arg : String) : Reading :=
  match arg.toList with
  | ['-', '-'] => .escape
  | '-' :: '-' :: long => .ofLong arg long
  | '-' :: c :: short => .ofShort arg (c :: short)
  | _ => .complete (.query arg)

/-- The arguments, told apart. -/
def Given.scan : List String → Except UsageError (List Given)
  | [] => .ok []
  | arg :: rest =>
    match Reading.ofArgument arg with
    | .escape => .ok (rest.map .query)
    | .complete given => do
      let others ← scan rest
      pure (given :: others)
    | .needsValue s =>
      match rest with
      | [] => .error (.missingValue s)
      | value :: rest =>
        if isOption value then .error (.missingValue s)
        else do
          let others ← scan rest
          pure (.setting s value :: others)
    | .wrong error => .error error

/-! ## Values -/

/-- A number of 32 bits, behind a sign if there is one. -/
def uint32? (s : String) : Option UInt32 := do
  let n ← match s.toList with
    | '+' :: digits => readNat? digits
    | '-' :: digits => (readNat? digits).filter (· == 0)
    | digits => readNat? digits
  if n < UInt32.size then some (UInt32.ofNat n) else none

/-- A number of 64 bits, behind a plus if there is one. -/
def uint64? (s : String) : Option UInt64 := do
  let n ← match s.toList with
    | '+' :: digits => readNat? digits
    | digits => readNat? digits
  if n < UInt64.size then some (UInt64.ofNat n) else none

/-- A point of time. -/
def instant? (s : String) : Option Instant := (Moment.read? s).map Moment.instant

/-! ## What the arguments say -/

/-- What is given on the command line; what is not given is absent. -/
structure Arguments where
  query : Option String
  format : Option Format
  start : Option Instant
  ending : Option Instant
  interval : Option UInt32
  granularity : Option UInt32
  orderby : Option Direction
  orgIds : List UInt64
  projectIds : List UInt64
  useCaseId : Option String
  entity : Option String
  metricId : Option UInt64
  limit : Option UInt32
  offset : Option UInt64
  totals : Bool
  noOptimize : Bool
  deriving DecidableEq, Repr

namespace Arguments

/-- Nothing is given. -/
def empty : Arguments :=
  ⟨none, none, none, none, none, none, none, [], [], none, none, none, none, none, false, false⟩

/-- The value of a setting, which must not have been given before. -/
def value {α : Type} (s : Setting) (before : Option α) (read : String → Option α) (text : String) :
    Except UsageError (Option α) :=
  match before, read text with
  | some _, _ => .error (.repeated s.name)
  | none, some a => .ok (some a)
  | none, none => .error (.badValue s text)

/-- One more setting. -/
def set (a : Arguments) (s : Setting) (text : String) : Except UsageError Arguments :=
  match s with
  | .format => do let format ← value s a.format Format.ofText? text; pure { a with format }
  | .start => do let start ← value s a.start instant? text; pure { a with start }
  | .ending => do let ending ← value s a.ending instant? text; pure { a with ending }
  | .interval => do let interval ← value s a.interval uint32? text; pure { a with interval }
  | .granularity => do
    let granularity ← value s a.granularity uint32? text
    pure { a with granularity }
  | .orderby => do let orderby ← value s a.orderby orderOfText? text; pure { a with orderby }
  | .orgId => do
    let id ← value s none uint64? text
    pure { a with orgIds := a.orgIds ++ id.toList }
  | .projectId => do
    let id ← value s none uint64? text
    pure { a with projectIds := a.projectIds ++ id.toList }
  | .useCaseId => do let useCaseId ← value s a.useCaseId some text; pure { a with useCaseId }
  | .entity => do let entity ← value s a.entity some text; pure { a with entity }
  | .metricId => do let metricId ← value s a.metricId uint64? text; pure { a with metricId }
  | .limit => do let limit ← value s a.limit uint32? text; pure { a with limit }
  | .offset => do let offset ← value s a.offset uint64? text; pure { a with offset }

/-- One more thing that is given. -/
def add (a : Arguments) : Given → Except UsageError Arguments
  | .setting s text => a.set s text
  | .switch .totals => if a.totals then .error (.repeated "totals") else .ok { a with totals := true }
  | .switch .noOptimize =>
    if a.noOptimize then .error (.repeated "no-optimize") else .ok { a with noOptimize := true }
  | .query text =>
    match a.query with
    | some _ => .error (.extraQuery text)
    | none => .ok { a with query := some text }

/-- What the arguments say. -/
def parse (args : List String) : Except UsageError Arguments := do
  let given ← Given.scan args
  given.foldlM add empty

end Arguments

end MetricQuery.CommandLine
