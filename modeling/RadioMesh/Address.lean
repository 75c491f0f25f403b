import RadioMesh.Bytes
import RadioMesh.Text.Hex
import RadioMesh.WireError

/-!
# Device addresses

A device address is six bytes in the order in which it is displayed.  It
travels in the opposite order, and as text it is six pairs of hexadecimal digits
with colons between them.
-/

namespace RadioMesh

open Text

/-- A device address, its bytes in display order. -/
structure Address where
  first : UInt8
  second : UInt8
  third : UInt8
  fourth : UInt8
  fifth : UInt8
  sixth : UInt8
  deriving DecidableEq, Repr

namespace Address

def size : Nat := 6

def bytes (address : Address) : Bytes :=
  [address.first, address.second, address.third,
    address.fourth, address.fifth, address.sixth]

def encode (address : Address) : Bytes :=
  [address.sixth, address.fifth, address.fourth,
    address.third, address.second, address.first]

/-- The address that consists of exactly these bytes in display order. -/
def ofBytes? : Bytes → Option Address
  | [first, second, third, fourth, fifth, sixth] =>
      some ⟨first, second, third, fourth, fifth, sixth⟩
  | _ => none

/-- The address that travels as exactly these bytes. -/
def decode (wire : Bytes) : Except WireError Address :=
  match wire with
  | [sixth, fifth, fourth, third, second, first] =>
      .ok ⟨first, second, third, fourth, fifth, sixth⟩
  | _ => .error (.invalidLength size wire.length)

/-- The address of everybody. -/
def broadcast : Address := ⟨0, 0, 0, 0, 0, 0⟩

def isBroadcast (address : Address) : Bool := address == broadcast

/-- The byte spelled by two digits. -/
def pairValue? (high low : Char) : Option UInt8 :=
  match digitValue? 16 high, digitValue? 16 low with
  | some highValue, some lowValue => some (UInt8.ofNat (16 * highValue + lowValue))
  | _, _ => none

/-- The bytes spelled by pairs of digits with single colons between them. -/
def pairs? : List Char → Option Bytes
  | [high, low] => (pairValue? high low).map fun byte => [byte]
  | high :: low :: ':' :: rest =>
      match pairValue? high low, pairs? rest with
      | some byte, some bytes => some (byte :: bytes)
      | _, _ => none
  | _ => none

/-- Reads an address that is written as text. -/
def parse (text : String) : Except WireError Address :=
  match (pairs? text.toList).bind ofBytes? with
  | some address => .ok address
  | none => .error (.invalidAddress text)

/-- An address as the digits of its bytes with colons between them. -/
def digits (address : Address) : List Char :=
  [':'].intercalate (address.bytes.map Hex.byteDigits)

def text (address : Address) : String := String.ofList address.digits

theorem decode_encode (address : Address) : decode address.encode = .ok address := rfl

theorem length_encode (address : Address) : address.encode.length = size := rfl

end Address

end RadioMesh
