import RadioMesh.Buffer
import RadioMesh.Log.Attempt

/-!
# Configuration records

A configuration record has a type, a reserved byte, the length of its payload
and the payload.  It says where it ends, so records can follow each other in
one byte string.
-/

namespace RadioMesh

/-- A configuration record, with the payload length that it declares. -/
structure ConfigRecord where
  kind : UInt8
  length : UInt16
  payload : Bytes
  deriving DecidableEq, Repr

namespace ConfigRecord

def headerSize : Nat := 4

/-- The longest payload that a declared length can describe. -/
def payloadLimit : Nat := 65535

/-- A configuration record that declares the length of its payload. -/
def ofPayload (kind : UInt8) (payload : Bytes) : Except WireError ConfigRecord :=
  if payload.length ≤ payloadLimit then
    .ok ⟨kind, UInt16.ofNat payload.length, payload⟩
  else .error (.payloadTooLarge payload.length payloadLimit)

def decodedEvent (record : ConfigRecord) (trailing : Nat) : Event :=
  .configRecordDecoded record.kind record.length trailing

/-- Reads a configuration record from the front of a byte string. -/
def decode (wire : Bytes) : Attempt WireError ConfigRecord :=
  match wire with
  | kind :: _ :: low :: high :: rest =>
      let length := Word16.ofBytes low high
      if length.toNat ≤ rest.length then do
        let record : ConfigRecord := ⟨kind, length, rest.take length.toNat⟩
        .report (record.decodedEvent (rest.length - length.toNat))
        pure record
      else .fail (.tooShort (headerSize + length.toNat) wire.length)
  | _ => .fail (.tooShort headerSize wire.length)

def encode (record : ConfigRecord) : Except WireError Bytes :=
  if record.length.toNat = record.payload.length then
    .ok (record.kind :: reservedByte :: Word16.toBytes record.length ++ record.payload)
  else .error (.invalidLength record.payload.length record.length.toNat)

/-- Writes a configuration record into a buffer.  The declared length is checked before
anything is written. -/
def put (record : ConfigRecord) : ExceptT WireError (StateM Bytes) Unit := do
  if record.length.toNat ≠ record.payload.length then
    throw (.invalidLength record.payload.length record.length.toNat)
  Buffer.putByte record.kind
  Buffer.putByte reservedByte
  Buffer.putWord record.length
  Buffer.putBytes record.payload

/-- The bytes of a buffer into which a configuration record was written. -/
def encodeOnto (record : ConfigRecord) (buffer : Bytes) : Except WireError Bytes :=
  let (outcome, written) := record.put.run.run buffer
  outcome.map fun _ => written

def wireSize (record : ConfigRecord) : Nat := headerSize + record.payload.length

/-- The number that a payload of one, two or four bytes stands for. -/
def value? (record : ConfigRecord) : Option Nat :=
  match record.payload with
  | [only] => some only.toNat
  | [first, second] => some (first.toNat + 256 * second.toNat)
  | [first, second, third, fourth] =>
      some (first.toNat + 256 * (second.toNat + 256 * (third.toNat + 256 * fourth.toNat)))
  | _ => none

end ConfigRecord

end RadioMesh
