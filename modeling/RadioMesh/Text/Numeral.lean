import RadioMesh.Text.Blank
import RadioMesh.Text.Digits

/-!
# Numbers on the command line

A numeral is decimal, or hexadecimal after `0x` or `0X`; one plus sign may
stand in front of its digits, and white space around it is dropped.  A plain
integer is decimal only and keeps its white space, which no integer has.
-/

namespace RadioMesh.Text.Numeral

/-- Why text is no numeral for a given range.  Both carry the trimmed text. -/
inductive Flaw
  | malformed (text : String)
  | outOfRange (text : String)
  deriving DecidableEq, Repr

namespace Flaw

def message : Flaw → String
  | malformed text => "invalid number: " ++ text
  | outOfRange text => "value out of range: " ++ text

end Flaw

/-- Digits without the plus sign that may stand in front of them. -/
def dropPlus : List Char → List Char
  | '+' :: digits => digits
  | digits => digits

/-- The value of a numeral of any size. -/
def value? : List Char → Option Nat
  | '0' :: 'x' :: digits => natural? 16 (dropPlus digits)
  | '0' :: 'X' :: digits => natural? 16 (dropPlus digits)
  | digits => natural? 10 (dropPlus digits)

/-- Reads a numeral that is at most `limit`.  A numeral that does not fit into
sixty-four bits counts as malformed. -/
def parse (limit : Nat) (text : String) : Except Flaw Nat :=
  let trimmed := trim text.toList
  match value? trimmed with
  | some value =>
      if value < UInt64.size then
        if value ≤ limit then .ok value
        else .error (.outOfRange (String.ofList trimmed))
      else .error (.malformed (String.ofList trimmed))
  | none => .error (.malformed (String.ofList trimmed))

/-- Reads a plain integer between `low` and `high`.  A minus sign is allowed
only where negative values are. -/
def integer? (low high : Int) (text : String) : Option Int :=
  let value? : Option Int :=
    match text.toList with
    | '-' :: digits =>
        if low < 0 then (natural? 10 digits).map fun value => -(value : Int) else none
    | digits => (natural? 10 (dropPlus digits)).map Int.ofNat
  value?.bind fun value => if low ≤ value ∧ value ≤ high then some value else none

end RadioMesh.Text.Numeral
