/-!
# Digits and numbers

Numbers are written without leading zeros, in base ten or sixteen, with lower
case digits.  They are read from one or more digits of either case.
-/

namespace RadioMesh.Text

/-- The value of a digit, for the bases up to sixteen. -/
def digitValue? (base : Nat) (character : Char) : Option Nat :=
  let code := character.toNat
  let value :=
    if 48 ≤ code && code ≤ 57 then code - 48
    else if 97 ≤ code && code ≤ 102 then code - 87
    else if 65 ≤ code && code ≤ 70 then code - 55
    else base
  if value < base then some value else none

/-- Carries the value of the digits already read through the rest. -/
def digitsValue? (base : Nat) (value : Nat) : List Char → Option Nat
  | [] => some value
  | character :: rest =>
      match digitValue? base character with
      | some digit => digitsValue? base (base * value + digit) rest
      | none => none

def natural? (base : Nat) : List Char → Option Nat
  | [] => none
  | character :: rest => digitsValue? base 0 (character :: rest)

def decimal (value : Nat) : String := String.ofList (Nat.toDigits 10 value)

/-- A number in base ten, with a minus sign in front of a negative one. -/
def signedDecimal : Int → String
  | .ofNat value => decimal value
  | .negSucc value => "-" ++ decimal (value + 1)

/-- A number in base sixteen, filled up with zeros to at least `width` digits. -/
def hexadecimal (width : Nat) (value : Nat) : String :=
  let digits := Nat.toDigits 16 value
  String.ofList (List.replicate (width - digits.length) '0' ++ digits)

end RadioMesh.Text
