import RadioMesh.Log.Event
import RadioMesh.Text.Json
import RadioMesh.Text.Quoted

/-!
# Log lines

An event is written to the log as one line, as text or as JSON, unless it is
less severe than the log asks for.
-/

namespace RadioMesh

open Text

inductive LogFormat
  | text
  | json
  deriving DecidableEq, Repr

namespace LogFormat

/-- The name of a format where a user gives it. -/
def name : LogFormat → String
  | text => "text"
  | json => "json"

def all : List LogFormat := [text, json]

end LogFormat

namespace FieldValue

def render : FieldValue → String
  | number value => signedDecimal value
  | truth value => if value then "true" else "false"
  | text value => Quoted.string value
  | label value => value

def json : FieldValue → Json
  | number value => .number value
  | truth value => .truth value
  | text value => .string value
  | label value => .string value

end FieldValue

namespace Event

def textLine (event : Event) : String :=
  " ".intercalate (event.level.title :: event.message ::
    event.fields.map fun (name, value) => name ++ "=" ++ value.render)

def jsonLine (event : Event) : String :=
  (Json.object [("level", .string event.level.title),
    ("fields", .object (("message", .string event.message) ::
      event.fields.map fun (name, value) => (name, value.json)))]).render

def line (event : Event) : LogFormat → String
  | .text => event.textLine
  | .json => event.jsonLine

/-- The lines of the events that are at least as severe as `level`. -/
def lines (format : LogFormat) (level : Level) (events : List Event) : List String :=
  (events.filter fun event => event.level.rank ≤ level.rank).map fun event => event.line format

end Event

end RadioMesh
