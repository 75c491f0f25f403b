import RadioMesh.Record.Frame
import RadioMesh.Record.ScanResult

/-!
# Hub messages

A hub message is a frame whose data starts with the address of the sender and
a message type.  The type says how the rest, the payload, is to be read.
-/

namespace RadioMesh

/-- A message from a node to a hub. -/
structure HubMessage where
  opcode : UInt8
  handle : UInt16
  source : Address
  messageType : UInt16
  payload : Bytes
  deriving DecidableEq, Repr

inductive HubBody
  | scan (result : ScanResult)
  | raw (messageType : UInt16) (payload : Bytes)
  deriving DecidableEq, Repr

namespace HubMessage

/-- The number of data bytes in front of the payload. -/
def headerSize : Nat := 8

def minimumSize : Nat := Frame.headerSize + headerSize

def ofFrame (frame : Frame) : Except WireError HubMessage :=
  match frame.data with
  | sixth :: fifth :: fourth :: third :: second :: first :: low :: high :: payload =>
      .ok ⟨frame.opcode, frame.handle, ⟨first, second, third, fourth, fifth, sixth⟩,
        Word16.ofBytes low high, payload⟩
  | data => .error (.tooShort minimumSize (Frame.headerSize + data.length))

def toFrame (message : HubMessage) : Except WireError Frame :=
  Frame.ofData message.opcode message.handle
    (message.source.encode ++ Word16.toBytes message.messageType ++ message.payload)

def encode (message : HubMessage) : Except WireError Bytes :=
  message.toFrame.map Frame.encode

/-- The hub message that carries a scan result. -/
def ofScanResult (opcode : UInt8) (handle : UInt16) (source : Address)
    (result : ScanResult) : Except WireError HubMessage :=
  result.encode.map fun payload => ⟨opcode, handle, source, scanMessage, payload⟩

/-- The meaning of the payload of a hub message. -/
def body (message : HubMessage) : Except WireError HubBody :=
  if message.messageType = scanMessage then
    (ScanResult.decode message.payload).map .scan
  else .ok (.raw message.messageType message.payload)

def decodedEvent (message : HubMessage) : Event :=
  .hubMessageDecoded message.source message.messageType message.payload.length

def decode (policy : LengthPolicy) (wire : Bytes) : Attempt WireError HubMessage :=
  if wire.length < minimumSize then .fail (.tooShort minimumSize wire.length)
  else do
    let frame ← Frame.decode policy wire
    let message ← Attempt.ofExcept (ofFrame frame)
    .report message.decodedEvent
    pure message

theorem ofFrame_of_toFrame_eq_ok {message : HubMessage} {frame : Frame}
    (built : message.toFrame = .ok frame) : ofFrame frame = .ok message := by
  unfold toFrame Frame.ofData at built
  split at built
  · cases built
    simp [ofFrame, Address.encode, Word16.toBytes]
  · cases built

end HubMessage

end RadioMesh
