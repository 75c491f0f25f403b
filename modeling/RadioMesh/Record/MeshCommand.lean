import RadioMesh.Record.Frame

/-!
# Mesh commands

A mesh command is a message for a node: a channel, a reserved byte, a declared
length, the address of the target, a message type and the payload.  The
declared length counts everything that follows it.
-/

namespace RadioMesh

/-- A message into the mesh. -/
structure MeshCommand where
  channel : UInt8
  target : Address
  messageType : UInt16
  payload : Bytes
  deriving DecidableEq, Repr

namespace MeshCommand

def headerSize : Nat := 12

/-- The number of header bytes that the declared length counts. -/
def countedHeader : Nat := 8

/-- The longest payload that a declared length can describe. -/
def payloadLimit : Nat := 65535 - countedHeader

def encode (command : MeshCommand) : Except WireError Bytes :=
  if command.payload.length ≤ payloadLimit then
    .ok (command.channel :: reservedByte ::
      Word16.toBytes (UInt16.ofNat (countedHeader + command.payload.length)) ++
      command.target.encode ++ Word16.toBytes command.messageType ++ command.payload)
  else .error (.payloadTooLarge command.payload.length payloadLimit)

def decodedEvent (command : MeshCommand) : Event :=
  .meshCommandDecoded command.channel command.target command.messageType

/-- Reads a mesh command whose payload is everything after the header. -/
def decode (policy : LengthPolicy) (wire : Bytes) : Attempt WireError MeshCommand :=
  match wire with
  | channel :: _ :: lengthLow :: lengthHigh ::
      sixth :: fifth :: fourth :: third :: second :: first ::
      typeLow :: typeHigh :: payload => do
      policy.check (Word16.ofBytes lengthLow lengthHigh).toNat (countedHeader + payload.length)
      let command : MeshCommand :=
        ⟨channel, ⟨first, second, third, fourth, fifth, sixth⟩,
          Word16.ofBytes typeLow typeHigh, payload⟩
      .report command.decodedEvent
      pure command
  | _ => .fail (.tooShort headerSize wire.length)

theorem decode_of_length_lt {wire : Bytes} (short : wire.length < headerSize)
    (policy : LengthPolicy) : decode policy wire = .fail (.tooShort headerSize wire.length) := by
  unfold decode
  split
  · simp only [headerSize, List.length_cons] at short
    omega
  · rfl

end MeshCommand

end RadioMesh
