import RadioMesh.Bytes
import RadioMesh.Text.Digits

/-!
# Bytes as hexadecimal digits

Each byte is written as two lower case digits, high half first.  Reading takes
digits of either case and reports an odd number of digits before it looks for
a byte that is no digit.
-/

namespace RadioMesh.Text.Hex

def byteDigits (byte : UInt8) : List Char :=
  [Nat.digitChar (byte.toNat / 16), Nat.digitChar (byte.toNat % 16)]

def encode (bytes : Bytes) : List Char := bytes.flatMap byteDigits

def text (bytes : Bytes) : String := String.ofList (encode bytes)

/-- Why text is not a byte string in hexadecimal digits. -/
inductive Flaw
  | oddLength
  | notDigit (byte : UInt8) (index : Nat)
  deriving DecidableEq, Repr

/-- The value of the digit whose only byte is `byte`. -/
def digit? (byte : UInt8) : Option Nat := digitValue? 16 (Char.ofNat byte.toNat)

/-- The bytes spelled by pairs of digits, the first of them at `index`.  A
digit without a partner is left over. -/
def pairs (index : Nat) : Bytes → Except Flaw Bytes
  | first :: second :: rest =>
      match digit? first, digit? second with
      | some high, some low =>
          match pairs (index + 2) rest with
          | .ok bytes => .ok (UInt8.ofNat (16 * high + low) :: bytes)
          | .error flaw => .error flaw
      | none, _ => .error (.notDigit first index)
      | some _, none => .error (.notDigit second (index + 1))
  | _ => .ok []

/-- The bytes spelled by text that is given as its own bytes. -/
def decode (digits : Bytes) : Except Flaw Bytes :=
  if digits.length % 2 = 1 then .error .oddLength else pairs 0 digits

end RadioMesh.Text.Hex
