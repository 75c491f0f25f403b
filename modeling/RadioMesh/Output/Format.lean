import RadioMesh.Output.View
import RadioMesh.Text.BoxTable
import RadioMesh.Text.Utf8

/-!
# Output formats

A view is printed as a line of JSON, as a table, as a line of named values, or
as the bare bytes that it is about.
-/

namespace RadioMesh

open Text

inductive OutputFormat
  | json
  | table
  | pretty
  | raw
  deriving DecidableEq, Repr

namespace OutputFormat

/-- The name of a format where a user gives it. -/
def name : OutputFormat → String
  | json => "json"
  | table => "table"
  | pretty => "pretty"
  | raw => "raw"

def all : List OutputFormat := [json, table, pretty, raw]

/-- The format of output that goes to a terminal or somewhere else, if no format
is asked for. -/
def usual (terminal : Bool) : OutputFormat := if terminal then table else json

end OutputFormat

namespace View

def line (text : String) : Bytes := utf8 (text ++ "\n").toList

def json (view : View) : Json := .object (("kind", .string view.title) :: view.members)

def table (view : View) : String :=
  BoxTable.render ("FIELD", "VALUE") (("kind", view.title) :: view.rows)

/-- A view as its name and its rows on one line. -/
def pretty (view : View) : String :=
  view.title ++ " " ++ " ".intercalate (view.rows.map fun (field, value) => field ++ "=" ++ value)

/-- The bare bytes of a view.  Addresses and times are text and end their line. -/
def raw : View → Bytes
  | .address device => line device.text
  | .frame envelope => envelope.data
  | .hub message _ => message.payload
  | .config record => record.payload
  | .tracked _ => []
  | .trackedList _ => []
  | .command message => message.payload
  | .encoded _ bytes => bytes
  | .time _ _ _ result => line (signedDecimal result.toInt)

def render (view : View) : OutputFormat → Bytes
  | .json => line view.json.render
  | .table => line view.table
  | .pretty => line view.pretty
  | .raw => view.raw

end View

end RadioMesh
