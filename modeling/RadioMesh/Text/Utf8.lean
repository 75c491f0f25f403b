import RadioMesh.Bytes

/-!
# Text as bytes

The bytes of which text consists when it is stored or printed.
-/

namespace RadioMesh.Text

/-- The bytes of some characters, one to four for each. -/
def utf8 (characters : List Char) : Bytes := characters.flatMap String.utf8EncodeChar

end RadioMesh.Text
