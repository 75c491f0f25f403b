/-!
# Kinds of record, and their type codes

The seven kinds of record with their two names, the type codes of
configuration records and the type code of the one hub message whose payload
has a layout of its own.
-/

namespace RadioMesh

inductive RecordKind
  | address
  | frame
  | hub
  | config
  | tracked
  | trackedList
  | command
  deriving DecidableEq, Repr

namespace RecordKind

/-- The name of a kind where a user gives or reads it. -/
def name : RecordKind → String
  | address => "address"
  | frame => "frame"
  | hub => "hub"
  | config => "config"
  | tracked => "tracked"
  | trackedList => "tracked-list"
  | command => "command"

/-- The name of a kind in the log. -/
def title : RecordKind → String
  | address => "Address"
  | frame => "Frame"
  | hub => "Hub"
  | config => "Config"
  | tracked => "Tracked"
  | trackedList => "TrackedList"
  | command => "Command"

def all : List RecordKind := [address, frame, hub, config, tracked, trackedList, command]

end RecordKind

def configTypeName (kind : UInt8) : String :=
  match kind.toNat with
  | 0x00 => "NAME"
  | 0x01 => "DEVICE_TYPE"
  | 0x02 => "ROOM"
  | 0x03 => "FLOOR"
  | 0x04 => "NEARBY_TIMEOUT"
  | 0x05 => "PWM_FREQUENCY"
  | 0x06 => "IBEACON_MAJOR"
  | 0x07 => "IBEACON_MINOR"
  | 0x08 => "IBEACON_PROXIMITY_UUID"
  | 0x09 => "IBEACON_RSSI"
  | 0x0a => "WIFI"
  | 0x0b => "TX_POWER"
  | 0x0c => "ADV_INTERVAL"
  | 0x0d => "PASSKEY"
  | 0x0e => "MIN_ENV_TEMP"
  | 0x0f => "MAX_ENV_TEMP"
  | _ => "UNKNOWN"

/-- The type of hub message whose payload is a scan result. -/
def scanMessage : UInt16 := 101

def hubMessageName (messageType : UInt16) : String :=
  if messageType = scanMessage then "SCAN_RESULT" else "UNKNOWN"

/-- What an encoder writes into a reserved byte. -/
def reservedByte : UInt8 := 0

end RadioMesh
