import RadioMesh.Address

/-!
# Scan results

A scan result lists the devices that a node has heard: a count, then nine bytes
for each device.  Bytes after the last device do not belong to it.
-/

namespace RadioMesh

/-- A device that a node has heard. -/
structure ScannedDevice where
  address : Address
  rssi : Int8
  occurrences : UInt16
  deriving DecidableEq, Repr

namespace ScannedDevice

def size : Nat := 9

def encode (device : ScannedDevice) : Bytes :=
  device.address.encode ++ device.rssi.toUInt8 :: Word16.toBytes device.occurrences

/-- The first `count` devices of a byte string, as far as it reaches. -/
def decodeMany : Nat → Bytes → List ScannedDevice
  | count + 1,
      sixth :: fifth :: fourth :: third :: second :: first ::
        rssi :: low :: high :: rest =>
      ⟨⟨first, second, third, fourth, fifth, sixth⟩, rssi.toInt8, Word16.ofBytes low high⟩ ::
        decodeMany count rest
  | _, _ => []

end ScannedDevice

/-- The devices that a node has heard, in order. -/
structure ScanResult where
  devices : List ScannedDevice
  deriving DecidableEq, Repr

namespace ScanResult

/-- The most devices that a count can describe. -/
def deviceLimit : Nat := 255

/-- Reads a scan result from the front of a byte string. -/
def decode (wire : Bytes) : Except WireError ScanResult :=
  match wire with
  | [] => .error (.tooShort 1 0)
  | count :: rest =>
      let needed := 1 + count.toNat * ScannedDevice.size
      if needed ≤ wire.length then .ok ⟨ScannedDevice.decodeMany count.toNat rest⟩
      else .error (.tooShort needed wire.length)

def encode (result : ScanResult) : Except WireError Bytes :=
  if result.devices.length ≤ deviceLimit then
    .ok (UInt8.ofNat result.devices.length :: result.devices.flatMap ScannedDevice.encode)
  else .error (.payloadTooLarge result.devices.length deviceLimit)

end ScanResult

end RadioMesh
