import RadioMesh.Text.Digits

/-!
# JSON on one line

The part of JSON that the library writes: integers, truth values, strings,
arrays and objects, without spaces, the members of an object in the order in
which they are given.
-/

namespace RadioMesh.Text

inductive Json
  | number (value : Int)
  | truth (value : Bool)
  | string (value : String)
  | array (items : List Json)
  | object (members : List (String × Json))

namespace Json

/-- How a character is written inside a JSON string. -/
def escape (character : Char) : List Char :=
  if character = '\x22' then ['\x5c', '\x22']
  else if character = '\x5c' then ['\x5c', '\x5c']
  else if character = '\x08' then ['\x5c', 'b']
  else if character = '\x0c' then ['\x5c', 'f']
  else if character = '\n' then ['\x5c', 'n']
  else if character = '\r' then ['\x5c', 'r']
  else if character = '\t' then ['\x5c', 't']
  else if character.toNat < 0x20 then
    ['\x5c', 'u'] ++ (hexadecimal 4 character.toNat).toList
  else [character]

def quote (text : String) : String :=
  String.ofList ('\x22' :: text.toList.flatMap escape ++ ['\x22'])

/-- Parts with commas between them. -/
def separated : List String → String
  | [] => ""
  | [part] => part
  | part :: next :: rest => part ++ "," ++ separated (next :: rest)

mutual

def render : Json → String
  | .number value => signedDecimal value
  | .truth value => if value then "true" else "false"
  | .string value => quote value
  | .array items => "[" ++ separated (renderItems items) ++ "]"
  | .object members => "\x7b" ++ separated (renderMembers members) ++ "\x7d"

/-- The items of an array, each as JSON text. -/
def renderItems : List Json → List String
  | [] => []
  | item :: rest => render item :: renderItems rest

/-- The members of an object, each as a name, a colon and a value. -/
def renderMembers : List (String × Json) → List String
  | [] => []
  | (name, value) :: rest => (quote name ++ ":" ++ render value) :: renderMembers rest

end

end Json

end RadioMesh.Text
