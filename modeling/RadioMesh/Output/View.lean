import RadioMesh.PartialClock
import RadioMesh.Record.ConfigRecord
import RadioMesh.Record.HubMessage
import RadioMesh.Record.MeshCommand
import RadioMesh.Record.TrackedDevice
import RadioMesh.Text.Json

/-!
# What is shown of a record

A view is something that a command shows.  It has a name, members for programs,
rows for people, and the bytes that it is about.
-/

namespace RadioMesh

open Text

inductive View
  | address (address : Address)
  | frame (frame : Frame)
  | hub (message : HubMessage) (body : HubBody)
  | config (record : ConfigRecord)
  | tracked (device : TrackedDevice)
  | trackedList (devices : List TrackedDevice)
  | command (command : MeshCommand)
  | encoded (kind : RecordKind) (bytes : Bytes)
  | time (reference : Int64) (stamp : UInt16) (utcOffset : Int32) (result : Int64)
  deriving DecidableEq, Repr

namespace View

def title : View → String
  | address _ => RecordKind.address.name
  | frame _ => RecordKind.frame.name
  | hub _ _ => RecordKind.hub.name
  | config _ => RecordKind.config.name
  | tracked _ => RecordKind.tracked.name
  | trackedList _ => RecordKind.trackedList.name
  | command _ => RecordKind.command.name
  | encoded _ _ => "encoded"
  | time .. => "timestamp"

/-- The devices of a payload that is a scan result. -/
def devices? : HubBody → Option (List ScannedDevice)
  | .scan result => some result.devices
  | .raw _ _ => none

def count (value : Nat) : Json := .number value

def scannedMember (device : ScannedDevice) : Json :=
  .object [("address", .string device.address.text), ("rssi", .number device.rssi.toInt),
    ("occurrences", count device.occurrences.toNat)]

def trackedMembers (device : TrackedDevice) : List (String × Json) :=
  [("address", .string device.address.text), ("rssi", .number device.rssi.toInt)]

/-- The members of a view after its name. -/
def members : View → List (String × Json)
  | .address device =>
      [("address", .string device.text), ("broadcast", .truth device.isBroadcast),
        ("wire", .string (Hex.text device.encode))]
  | .frame envelope =>
      [("opcode", count envelope.opcode.toNat), ("handle", count envelope.handle.toNat),
        ("data_length", count envelope.dataLength.toNat), ("data_size", count envelope.data.length),
        ("length_consistent", .truth envelope.isConsistent),
        ("data", .string (Hex.text envelope.data))]
  | .hub message body =>
      [("opcode", count message.opcode.toNat), ("handle", count message.handle.toNat),
        ("source", .string message.source.text),
        ("broadcast", .truth message.source.isBroadcast),
        ("message_type", count message.messageType.toNat),
        ("message_name", .string (hubMessageName message.messageType)),
        ("payload", .string (Hex.text message.payload))] ++
        match devices? body with
        | some devices => [("devices", .array (devices.map scannedMember))]
        | none => []
  | .config record =>
      [("config_type", count record.kind.toNat), ("name", .string (configTypeName record.kind)),
        ("length", count record.length.toNat),
        ("payload", .string (Hex.text record.payload))] ++
        match record.value? with
        | some value => [("value", count value)]
        | none => []
  | .tracked device => trackedMembers device
  | .trackedList devices =>
      [("devices", .array (devices.map fun device => .object (trackedMembers device)))]
  | .command message =>
      [("channel", count message.channel.toNat), ("target", .string message.target.text),
        ("broadcast", .truth message.target.isBroadcast),
        ("message_type", count message.messageType.toNat),
        ("payload", .string (Hex.text message.payload))]
  | .encoded kind bytes =>
      [("record", .string kind.name), ("size", count bytes.length),
        ("hex", .string (Hex.text bytes))]
  | .time reference stamp utcOffset result =>
      [("reference", .number reference.toInt), ("partial", count stamp.toNat),
        ("utc_offset_secs", .number utcOffset.toInt), ("reconstructed", .number result.toInt)]

def hexByte (byte : UInt8) : String := "0x" ++ hexadecimal 2 byte.toNat

def hexWord (word : UInt16) : String := "0x" ++ hexadecimal 4 word.toNat

def yesNo (value : Bool) : String := if value then "true" else "false"

/-- A value with a remark behind it. -/
def remark (value note : String) : String := value ++ " (" ++ note ++ ")"

def scannedRow (device : ScannedDevice) : String × String :=
  ("device", device.address.text ++ " rssi=" ++ signedDecimal device.rssi.toInt ++
    " seen=" ++ decimal device.occurrences.toNat)

def trackedRow (device : TrackedDevice) : String × String :=
  ("device", device.address.text ++ " rssi=" ++ signedDecimal device.rssi.toInt)

/-- The rows of a view after its name. -/
def rows : View → List (String × String)
  | .address device =>
      [("address", device.text), ("broadcast", yesNo device.isBroadcast),
        ("wire", Hex.text device.encode)]
  | .frame envelope =>
      [("opcode", hexByte envelope.opcode), ("handle", hexWord envelope.handle),
        ("data_length", decimal envelope.dataLength.toNat),
        ("data_size", decimal envelope.data.length),
        ("length_consistent", yesNo envelope.isConsistent), ("data", Hex.text envelope.data)]
  | .hub message body =>
      [("opcode", hexByte message.opcode), ("handle", hexWord message.handle),
        ("source", message.source.text), ("broadcast", yesNo message.source.isBroadcast),
        ("message_type", remark (decimal message.messageType.toNat)
          (hubMessageName message.messageType)),
        ("payload", Hex.text message.payload)] ++
        ((devices? body).getD []).map scannedRow
  | .config record =>
      [("type", remark (hexByte record.kind) (configTypeName record.kind)),
        ("length", decimal record.length.toNat), ("payload", Hex.text record.payload)] ++
        match record.value? with
        | some value => [("value", decimal value)]
        | none => []
  | .tracked device =>
      [("address", device.address.text), ("rssi", signedDecimal device.rssi.toInt)]
  | .trackedList devices => devices.map trackedRow
  | .command message =>
      [("channel", decimal message.channel.toNat), ("target", message.target.text),
        ("broadcast", yesNo message.target.isBroadcast),
        ("message_type", decimal message.messageType.toNat),
        ("payload", Hex.text message.payload)]
  | .encoded kind bytes =>
      [("record", kind.name), ("size", decimal bytes.length), ("hex", Hex.text bytes)]
  | .time reference stamp utcOffset result =>
      [("reference", signedDecimal reference.toInt),
        ("partial", remark (decimal stamp.toNat) (hexWord stamp)),
        ("utc_offset_secs", signedDecimal utcOffset.toInt),
        ("reconstructed", signedDecimal result.toInt)]

end View

end RadioMesh
