/-!
# Tables with two columns in a box

Every row stands between vertical strokes.  A double line closes the heading and
dashed lines separate the rows.  A column is as wide as its widest cell, with a
space on either side, whatever the width of a terminal may be.  But there is a
limit to the width of a column: a longer text, such as the digits of many bytes,
goes on in the next line of its row, without regard to any spaces in it.
-/

namespace RadioMesh.Text.BoxTable

/-- The largest width that a column or a stroke can have. -/
def widest : Nat := 65535

def columnWidth (cells : List String) : Nat :=
  min widest ((cells.map String.length).foldl max 0)

/-- The parts of a text that fill a column line by line. -/
def parts (width : Nat) (text : List Char) : List (List Char) :=
  if 0 < width ∧ width < text.length then
    text.take width :: parts width (text.drop width)
  else [text]
termination_by text.length
decreasing_by
  rw [List.length_drop]
  omega

/-- A part of a cell with spaces around it, filled up to the width of its column. -/
def cell (width : Nat) (part : List Char) : List Char :=
  ' ' :: part ++ List.replicate (width - part.length) ' ' ++ [' ']

def rowLine (left right : Nat) (field value : List Char) : List Char :=
  '│' :: cell left field ++ '┆' :: cell right value ++ ['│']

/-- The parts of two cells side by side, the shorter cell filled up with empty ones. -/
def beside (fields values : List (List Char)) : List (List Char × List Char) :=
  List.zipWithAll (fun field value => (field.getD [], value.getD [])) fields values

/-- The lines of a row, as many as there are parts of its longer cell. -/
def row (left right : Nat) (cells : String × String) : List (List Char) :=
  (beside (parts left cells.1.toList) (parts right cells.2.toList)).map fun (field, value) =>
    rowLine left right field value

def stroke (width : Nat) (character : Char) : List Char :=
  List.replicate (min widest (width + 2)) character

/-- A horizontal line: its first character, its stroke, the crossing of the
two columns and its last character. -/
def rule (left right : Nat) (first line crossing last : Char) : List Char :=
  first :: stroke left line ++ crossing :: stroke right line ++ [last]

/-- The lines of a table with a heading. -/
def lines (heading : String × String) (rows : List (String × String)) : List (List Char) :=
  let left := columnWidth ((heading :: rows).map Prod.fst)
  let right := columnWidth ((heading :: rows).map Prod.snd)
  rule left right '┌' '─' '┬' '┐' ::
    row left right heading ++
    rule left right '╞' '═' '╪' '╡' ::
    ((rows.map (row left right)).intersperse [rule left right '├' '╌' '┼' '┤']).flatten ++
    [rule left right '└' '─' '┴' '┘']

/-- A table as text, its lines separated by line breaks. -/
def render (heading : String × String) (rows : List (String × String)) : String :=
  String.ofList (List.intercalate ['\n'] (lines heading rows))

end RadioMesh.Text.BoxTable
