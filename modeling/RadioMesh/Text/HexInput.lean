import RadioMesh.Text.Blank
import RadioMesh.Text.Hex
import RadioMesh.Text.Quoted
import RadioMesh.Text.Utf8

/-!
# Bytes on the command line

A byte string may be given with white space around it, with `0x` in front, and
with spaces, colons, hyphens and underscores anywhere after that.
-/

namespace RadioMesh.Text.HexInput

/-- The characters that may stand anywhere between digits. -/
def isSeparator (character : Char) : Bool :=
  character = ' ' || character = ':' || character = '-' || character = '_'

/-- Text without one `0x` in front of it. -/
def dropMarker : List Char → List Char
  | '0' :: 'x' :: rest => rest
  | rest => rest

/-- What is left of the text for digits. -/
def digits (text : String) : List Char :=
  (dropMarker (trim text.toList)).filter fun character => !isSeparator character

def parse (text : String) : Except Hex.Flaw Bytes := Hex.decode (utf8 (digits text))

def message (text : String) (flaw : Hex.Flaw) : String :=
  "invalid hex " ++ Quoted.string text ++ ": " ++
    match flaw with
    | .oddLength => "Odd number of digits"
    | .notDigit byte index =>
        "Invalid character " ++ Quoted.character (Char.ofNat byte.toNat) ++
          " at position " ++ decimal index

end RadioMesh.Text.HexInput
