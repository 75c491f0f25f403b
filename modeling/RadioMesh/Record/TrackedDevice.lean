import RadioMesh.Address

/-!
# Tracked devices

A tracked device is an address and the signal strength from which on the device
counts as near.  It is seven bytes long, and a list of tracked devices is their
bytes one after the other.
-/

namespace RadioMesh

/-- A device to watch for. -/
structure TrackedDevice where
  address : Address
  rssi : Int8
  deriving DecidableEq, Repr

namespace TrackedDevice

def size : Nat := 7

def encode (device : TrackedDevice) : Bytes :=
  device.address.encode ++ [device.rssi.toUInt8]

/-- Reads a tracked device that fills the whole byte string. -/
def decode (wire : Bytes) : Except WireError TrackedDevice :=
  match wire with
  | [sixth, fifth, fourth, third, second, first, rssi] =>
      .ok ⟨⟨first, second, third, fourth, fifth, sixth⟩, rssi.toInt8⟩
  | _ =>
      if wire.length < size then .error (.tooShort size wire.length)
      else .error (.invalidLength size wire.length)

/-- The devices of a byte string, as long as seven bytes are left. -/
def decodeAll : Bytes → List TrackedDevice
  | sixth :: fifth :: fourth :: third :: second :: first :: rssi :: rest =>
      ⟨⟨first, second, third, fourth, fifth, sixth⟩, rssi.toInt8⟩ :: decodeAll rest
  | _ => []

/-- Reads a list of tracked devices that fills the whole byte string. -/
def decodeList (wire : Bytes) : Except WireError (List TrackedDevice) :=
  if wire.length % size = 0 then .ok (decodeAll wire)
  else .error (.invalidLength (wire.length / size * size) wire.length)

def encodeList (devices : List TrackedDevice) : Bytes := devices.flatMap encode

end TrackedDevice

end RadioMesh
