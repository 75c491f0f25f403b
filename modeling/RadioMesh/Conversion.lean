import RadioMesh.Capture

/-!
# Decoding and encoding on request

A record is decoded from hexadecimal digits, and encoded from the fields that
the user gave.  Frames and hub messages may go into a capture as well; that
happens before anything is shown.
-/

namespace RadioMesh

open Text

namespace Conversion

def bytesOf (text : String) : Except Failure Bytes :=
  (HexInput.parse text).mapError (.hexInput text)

def addressOf (text : String) : Except Failure Address :=
  (Address.parse text).mapError (.wire "encode failed")

/-- What is shown of the record that some bytes are. -/
def viewOf (policy : LengthPolicy) (bytes : Bytes) : RecordKind → Attempt WireError View
  | .address => .ofExcept ((Address.decode bytes).map .address)
  | .frame => View.frame <$> Frame.decode policy bytes
  | .hub => do
      let message ← HubMessage.decode policy bytes
      let body ← Attempt.ofExcept message.body
      pure (.hub message body)
  | .config => View.config <$> ConfigRecord.decode bytes
  | .tracked => .ofExcept ((TrackedDevice.decode bytes).map .tracked)
  | .trackedList => .ofExcept ((TrackedDevice.decodeList bytes).map .trackedList)
  | .command => View.command <$> MeshCommand.decode policy bytes

def decode (request : DecodeRequest) : Attempt Failure View := do
  let bytes ← Attempt.ofExcept (bytesOf request.hex)
  .report (.decodingStarted request.kind bytes.length (request.policy == .strict))
  (viewOf request.policy bytes request.kind).mapError (.wire "decode failed")

def frameOf (fields : FrameFields) : Except Failure Frame := do
  let data ← bytesOf fields.data
  let frame ← (Frame.ofData fields.opcode fields.handle data).mapError (.wire "encode failed")
  match fields.dataLength with
  | none => pure frame
  | some dataLength => pure { frame with dataLength := dataLength }

def hubFrameOf (fields : HubFields) : Except Failure Frame := do
  let source ← addressOf fields.source
  let payload ← bytesOf fields.payload
  let message : HubMessage :=
    ⟨fields.opcode, fields.handle, source, fields.messageType, payload⟩
  message.toFrame.mapError (.wire "encode failed")

def configBytesOf (fields : ConfigFields) : Except Failure Bytes := do
  let payload ← bytesOf fields.payload
  let record ← (ConfigRecord.ofPayload fields.kind payload).mapError (.wire "encode failed")
  record.encode.mapError (.wire "encode failed")

def trackedBytesOf (fields : TrackedFields) : Except Failure Bytes := do
  let address ← addressOf fields.address
  pure (TrackedDevice.encode ⟨address, fields.rssi⟩)

def commandBytesOf (fields : CommandFields) : Except Failure Bytes := do
  let target ← addressOf fields.target
  let payload ← bytesOf fields.payload
  let command : MeshCommand := ⟨fields.channel, target, fields.messageType, payload⟩
  command.encode.mapError (.wire "encode failed")

def encoded (kind : RecordKind) (bytes : Bytes) : Attempt Failure View := do
  .report (.recordEncoded kind bytes.length)
  pure (.encoded kind bytes)

/-- Puts a frame into a capture, if one is given, and then shows its bytes. -/
def encodeFrame (directory : Directory) (kind : RecordKind) (built : Except Failure Frame)
    (capture : Option String) : Directory × Attempt Failure View :=
  match built, capture with
  | .error failure, _ => (directory, .fail failure)
  | .ok frame, none => (directory, encoded kind frame.encode)
  | .ok frame, some path =>
      let (next, appended) := Capture.append directory path frame
      (next, appended >>= fun _ => encoded kind frame.encode)

/-- Encodes a record that has no place in a capture. -/
def encodeBytes (kind : RecordKind) (built : Except Failure Bytes) : Attempt Failure View := do
  let bytes ← Attempt.ofExcept built
  encoded kind bytes

/-- Encodes a record, and gives the directory after that. -/
def encode (directory : Directory) : EncodeRequest → Directory × Attempt Failure View
  | .frame fields => encodeFrame directory .frame (frameOf fields) fields.append
  | .hub fields => encodeFrame directory .hub (hubFrameOf fields) fields.append
  | .config fields => (directory, encodeBytes .config (configBytesOf fields))
  | .tracked fields => (directory, encodeBytes .tracked (trackedBytesOf fields))
  | .command fields => (directory, encodeBytes .command (commandBytesOf fields))

end Conversion

end RadioMesh
