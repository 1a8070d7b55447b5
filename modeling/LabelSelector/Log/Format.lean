import LabelSelector.Json.Text
import LabelSelector.Log.Record
import LabelSelector.Source.Quoted

/-! # Lines of a log

  The forms in which records are written. Only events are written; a scope shows
  in the lines of the events within it.

  - pretty: a line for the event and a line for the scope,
  - compact: one line, the fields of the scope last,
  - json: one object,
  - file: one line, the scope with its fields first.
-/

namespace LabelSelector.Log

/-- A form of lines on the console. -/
inductive Format where
  /-- Several lines for each event. -/
  | pretty
  /-- One short line for each event. -/
  | compact
  /-- One object for each event. -/
  | json
  deriving DecidableEq, Repr

/-! ### Fields -/

/-- A value within a line. -/
def FieldValue.inline : FieldValue → String
  | .number n => toString n
  | .flag b => Json.writeBool b
  | .text s => quoted s
  | .shown s => s

/-- A value as JSON. -/
def FieldValue.json : FieldValue → String
  | .number n => toString n
  | .flag b => Json.writeBool b
  | .text s | .shown s => Json.writeString s

/-- Fields of a line: `between` stands between name and value. -/
def written (between : String) (fields : List Field) : List String :=
  fields.map fun (name, value) => name ++ between ++ value.inline

/-! ### Lines -/

/-- A short line. -/
def compactLine (e : Event) (within : Option Scope) : String :=
  let scope := within.toList.map fun s => s.name ++ ":"
  let fields := e.fields ++ within.toList.flatMap Scope.fields
  String.intercalate " " ([e.level.name] ++ scope ++ [e.message] ++ written "=" fields)

/-- A line of a log file. -/
def fileLine (e : Event) (within : Option Scope) : String :=
  let scope := within.toList.map fun s =>
    s.name ++ "\x7b" ++ String.intercalate " " (written "=" s.fields) ++ "\x7d:"
  String.intercalate " "
    ([e.level.name] ++ scope ++ [e.phase.target ++ ":", e.message] ++ written "=" e.fields)

/-- The lines of an event and its scope. -/
def prettyLines (e : Event) (within : Option Scope) : List String :=
  let event := String.intercalate ", " (e.message :: written ": " e.fields)
  let scope := within.toList.map fun s =>
    "in " ++ s.phase.target ++ "::" ++ s.name ++ " with " ++
      String.intercalate ", " (written ": " s.fields)
  (e.level.name ++ " " ++ e.phase.target ++ ": " ++ event) :: scope

/-- An object. -/
def jsonLine (e : Event) (within : Option Scope) : String :=
  let members := fun (fields : List Field) => fields.map fun (name, value) => (name, value.json)
  let scopes := within.toList.flatMap fun s =>
    let object := Json.writeObject (members s.fields ++ [("name", Json.writeString s.name)])
    [("span", object), ("spans", "[" ++ object ++ "]")]
  Json.writeObject
    ([("level", Json.writeString e.level.name),
      ("fields", Json.writeObject (("message", Json.writeString e.message) :: members e.fields)),
      ("target", Json.writeString e.phase.target)] ++ scopes)

/-! ### Texts as lines -/

/-- A text without blanks at its ends. -/
def trim (cs : List Char) : List Char :=
  let blank := fun c => Unicode.Property.whiteSpace.contains c
  ((cs.dropWhile blank).reverse.dropWhile blank).reverse

/-- The lines of a text that hold more than blanks, without blanks at their ends. -/
def textLines (text : String) : List String :=
  let lines := (text.splitOn "\n").map fun line => trim line.toList
  (lines.filter fun line => !line.isEmpty).map String.ofList

/-- What a record adds to the console. -/
def consoleLines (format : Format) : Record → List String
  | .opened _ => []
  | .event e within =>
    match format with
    | .pretty => (prettyLines e within).flatMap textLines
    | .compact => textLines (compactLine e within)
    | .json => [jsonLine e within]

/-- What a record adds to a log file. -/
def fileLines : Record → List String
  | .opened _ => []
  | .event e within => textLines (fileLine e within)

end LabelSelector.Log
