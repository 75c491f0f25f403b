import RadioMesh.Text.Combining
import RadioMesh.Text.Digits
import RadioMesh.Text.Unprintable

/-!
# Quoted text

Text shown between quotation marks, so that a reader sees every character of
it: the mark in use and the backslash get a backslash, the common control
characters have letters, and any other character that would not show on its own
is written as its code point.
-/

namespace RadioMesh.Text.Quoted

/-- Whether a character would not show on its own. -/
def isHidden (character : Char) : Bool :=
  if character.toNat < 0x7f then character.toNat < 0x20
  else isUnprintable character || isCombining character

/-- How a character is written between two copies of `mark`. -/
def escape (mark : Char) (character : Char) : List Char :=
  if character = mark then ['\x5c', character]
  else if character = '\x5c' then ['\x5c', '\x5c']
  else if character = '\x00' then ['\x5c', '0']
  else if character = '\t' then ['\x5c', 't']
  else if character = '\n' then ['\x5c', 'n']
  else if character = '\r' then ['\x5c', 'r']
  else if isHidden character then
    ['\x5c', 'u', '\x7b'] ++ Nat.toDigits 16 character.toNat ++ ['\x7d']
  else [character]

/-- Text between two copies of `mark`. -/
def enclose (mark : Char) (text : List Char) : String :=
  String.ofList (mark :: text.flatMap (escape mark) ++ [mark])

def string (text : String) : String := enclose '\x22' text.toList

def character (single : Char) : String := enclose '\x27' [single]

end RadioMesh.Text.Quoted
