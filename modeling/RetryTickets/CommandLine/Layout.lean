-- Two layouts for reports: JSON, and a nested form for people to read.

namespace RetryTickets.Layout

/-- A value in a report. -/
inductive Value where
  | text (text : String)
  | number (number : Nat)
  | flag (flag : Bool)
  deriving DecidableEq

/-- What stands under a name: a value that is always there, or one that may be missing. -/
inductive Content where
  | always (value : Value)
  | maybe (value : Option Value)
  deriving DecidableEq

/-- A report: its name, and its contents under their names. -/
structure Record where
  name : String
  fields : List (String × Content)
  deriving DecidableEq

/-- A text between quotes, with a backslash before quotes and backslashes. -/
def quoted (text : String) : String :=
  let escape := fun c => if c = '"' ∨ c = '\\' then ['\\', c] else [c]
  "\"" ++ String.ofList (text.toList.flatMap escape) ++ "\""

/-- A value, which is the same in both layouts. -/
def Value.render : Value → String
  | text s => quoted s
  | number n => toString n
  | flag true => "true"
  | flag false => "false"

/-- Blank space of a width. -/
def space (width : Nat) : String := String.ofList (List.replicate width ' ')

/-! ## JSON -/

/-- The value of a field, if it has one. -/
def Content.value? : Content → Option Value
  | always value => some value
  | maybe value => value

/-- A record as an object, `depth` steps in. Missing values have no line. -/
def Record.json (depth : Nat) (record : Record) : String :=
  let line := fun (field : String × Content) =>
    field.2.value?.map fun value =>
      space (2 * depth + 2) ++ quoted field.1 ++ ": " ++ value.render
  "\x7b\n" ++ String.intercalate ",\n" (record.fields.filterMap line) ++ "\n" ++
    space (2 * depth) ++ "\x7d"

/-- Records as an array. -/
def jsonList (records : List Record) : String :=
  if records.isEmpty then "[]"
  else
    let items := records.map fun record => space 2 ++ record.json 1
    "[\n" ++ String.intercalate ",\n" items ++ "\n]"

/-! ## For people -/

/-- A field's content, `depth` steps in. A value that might have been missing says so. -/
def Content.nested (depth : Nat) : Content → String
  | always value => value.render
  | maybe none => "None"
  | maybe (some value) =>
    "Some(\n" ++ space (4 * depth + 4) ++ value.render ++ ",\n" ++ space (4 * depth) ++ ")"

/-- A record with its name, `depth` steps in. -/
def Record.nested (depth : Nat) (record : Record) : String :=
  let line := fun (field : String × Content) =>
    space (4 * depth + 4) ++ field.1 ++ ": " ++ field.2.nested (depth + 1) ++ ",\n"
  record.name ++ " \x7b\n" ++ String.join (record.fields.map line) ++ space (4 * depth) ++ "\x7d"

/-- Records between brackets. -/
def nestedList (records : List Record) : String :=
  if records.isEmpty then "[]"
  else
    let items := records.map fun record => space 4 ++ record.nested 1 ++ ",\n"
    "[\n" ++ String.join items ++ "]"

/-! ## By name -/

/-- A record in the layout of a name: JSON, or the nested form for any other name. -/
def render (format : String) (record : Record) : String :=
  if format = "json" then record.json 0 else record.nested 0

/-- Records in the layout of a name. -/
def renderList (format : String) (records : List Record) : String :=
  if format = "json" then jsonList records else nestedList records

end RetryTickets.Layout
