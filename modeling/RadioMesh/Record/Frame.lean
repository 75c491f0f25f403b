import RadioMesh.Buffer
import RadioMesh.Log.Attempt

/-!
# Frames

The envelope around all traffic: an opcode, a handle, a declared data length
and the data.  A frame keeps its declared length as it was read, also where it
disagrees with the data; the length policy says whether a decoder accepts that.
-/

namespace RadioMesh

/-- What a decoder does about a declared length that disagrees with the bytes. -/
inductive LengthPolicy
  | permissive
  | strict
  deriving DecidableEq, Repr

namespace LengthPolicy

/-- The error of a decoder that insists on the declared length. -/
def mismatch (declared actual : Nat) : WireError :=
  .malformed ("declared length " ++ Text.decimal declared ++ " but " ++
    Text.decimal actual ++ " bytes follow the header")

def check (policy : LengthPolicy) (declared actual : Nat) : Attempt WireError Unit :=
  if declared = actual then pure ()
  else
    match policy with
    | strict => .fail (mismatch declared actual)
    | permissive => .report (.lengthMismatchTolerated declared actual)

end LengthPolicy

/-- A frame, with the data length that it declares. -/
structure Frame where
  opcode : UInt8
  handle : UInt16
  dataLength : UInt8
  data : Bytes
  deriving DecidableEq, Repr

namespace Frame

def headerSize : Nat := 4

/-- The most data that a declared length can describe. -/
def dataLimit : Nat := 255

/-- A frame that declares the length of its data. -/
def ofData (opcode : UInt8) (handle : UInt16) (data : Bytes) : Except WireError Frame :=
  if data.length ≤ dataLimit then
    .ok ⟨opcode, handle, UInt8.ofNat data.length, data⟩
  else .error (.payloadTooLarge data.length dataLimit)

def encode (frame : Frame) : Bytes :=
  frame.opcode :: Word16.low frame.handle :: Word16.high frame.handle ::
    frame.dataLength :: frame.data

/-- Writes a frame into a buffer. -/
def put (frame : Frame) : StateM Bytes Unit := do
  Buffer.putByte frame.opcode
  Buffer.putWord frame.handle
  Buffer.putByte frame.dataLength
  Buffer.putBytes frame.data

def wireSize (frame : Frame) : Nat := headerSize + frame.data.length

/-- Whether a frame declares the length of its data. -/
def isConsistent (frame : Frame) : Bool := frame.dataLength.toNat == frame.data.length

def decodedEvent (frame : Frame) : Event :=
  .frameDecoded frame.opcode frame.handle frame.dataLength frame.data.length

/-- Reads a frame whose data is everything after the header. -/
def decode (policy : LengthPolicy) (wire : Bytes) : Attempt WireError Frame :=
  match wire with
  | opcode :: low :: high :: dataLength :: data => do
      policy.check dataLength.toNat data.length
      let frame : Frame := ⟨opcode, Word16.ofBytes low high, dataLength, data⟩
      .report frame.decodedEvent
      pure frame
  | _ => .fail (.tooShort headerSize wire.length)

theorem decode_of_length_lt {wire : Bytes} (short : wire.length < headerSize)
    (policy : LengthPolicy) : decode policy wire = .fail (.tooShort headerSize wire.length) := by
  unfold decode
  split
  · simp only [headerSize, List.length_cons] at short
    omega
  · rfl

theorem length_encode (frame : Frame) : frame.encode.length = frame.wireSize := by
  simp only [encode, List.length_cons, wireSize, headerSize]
  omega

end Frame

end RadioMesh
