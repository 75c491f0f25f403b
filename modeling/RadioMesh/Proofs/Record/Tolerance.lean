import RadioMesh.Proofs.Text.Decimal
import RadioMesh.Record.HubMessage
import RadioMesh.Record.MeshCommand

/-!
# Tolerated lengths

Three decoders compare a declared length with the bytes that follow it and ask the
policy what to do about a mismatch.  `Verdicts` lists what can become of some bytes under
the two policies.  The strict decoder gives what the permissive one gives, except where the
permissive one warns, and there it fails with the two lengths of the warning.
-/

namespace RadioMesh

namespace LengthPolicy

/-- What becomes of the same bytes under the permissive and under the strict policy. -/
inductive Verdicts {α : Type} (declared actual : Nat) (layers : α → List Event) :
    Attempt WireError α → Attempt WireError α → Prop where
  | short (needed size : Nat) :
      Verdicts declared actual layers
        (.fail (.tooShort needed size)) (.fail (.tooShort needed size))
  | agreed (value : α) :
      declared = actual →
      Verdicts declared actual layers ⟨.ok value, layers value⟩ ⟨.ok value, layers value⟩
  | tolerated (value : α) :
      declared ≠ actual →
      Verdicts declared actual layers
        ⟨.ok value, .lengthMismatchTolerated declared actual :: layers value⟩
        (.fail (mismatch declared actual))

namespace Verdicts

variable {α : Type} {declared actual : Nat} {layers : α → List Event}
  {lenient exacting : Attempt WireError α}

theorem exacting_eq (verdicts : Verdicts declared actual layers lenient exacting) :
    exacting = lenient ∨ exacting = .fail (mismatch declared actual) := by
  cases verdicts with
  | short needed size => exact .inl rfl
  | agreed value same => exact .inl rfl
  | tolerated value different => exact .inr rfl

theorem exacting_of_ok (verdicts : Verdicts declared actual layers lenient exacting)
    {value : α} (decoded : lenient.result = .ok value) :
    exacting.result =
      if declared = actual then .ok value else .error (mismatch declared actual) := by
  cases verdicts with
  | short needed size => cases decoded
  | agreed other same =>
      rw [if_pos same]
      exact decoded
  | tolerated other different =>
      rw [if_neg different]
      rfl

theorem silent (verdicts : Verdicts declared actual layers lenient exacting)
    {error : WireError} (failed : lenient.result = .error error) : lenient.events = [] := by
  cases verdicts with
  | short needed size => rfl
  | agreed value same => cases failed
  | tolerated value different => cases failed

end Verdicts

/-- A decoder that checks the lengths of a value and then reports its layers. -/
theorem verdicts_check {α : Type} (declared actual : Nat) (layers : α → List Event) (value : α) :
    Verdicts declared actual layers
      (permissive.check declared actual >>= fun _ => ⟨.ok value, layers value⟩)
      (strict.check declared actual >>= fun _ => ⟨.ok value, layers value⟩) := by
  by_cases same : declared = actual
  · simp only [check, if_pos same, Attempt.pure_bind]
    exact .agreed value same
  · simp only [check, if_neg same, Attempt.report_bind, Attempt.fail_bind]
    exact .tolerated value same

@[simp] theorem result_check_permissive (declared actual : Nat) :
    (permissive.check declared actual).result = .ok () := by
  unfold check
  split <;> rfl

end LengthPolicy

open LengthPolicy

namespace Frame

/-- The fourth byte of a frame, which declares the length of its data. -/
def declaredByte (wire : Bytes) : UInt8 := wire.getD 3 0

def layers (frame : Frame) : List Event :=
  [.frameDecoded frame.opcode frame.handle frame.dataLength frame.data.length]

theorem verdicts_decode (wire : Bytes) :
    Verdicts (declaredByte wire).toNat (wire.length - 4) layers
      (decode .permissive wire) (decode .strict wire) := by
  by_cases short : wire.length < headerSize
  · rw [decode_of_length_lt short, decode_of_length_lt short]
    exact .short headerSize wire.length
  · match wire, Nat.le_of_not_lt short with
    | opcode :: low :: high :: dataLength :: data, _ =>
      exact verdicts_check dataLength.toNat data.length layers
        ⟨opcode, Word16.ofBytes low high, dataLength, data⟩

end Frame

namespace HubMessage

/-- The layers of a hub message: the frame around it, whose data are eight bytes longer than
the payload, and the message. -/
def layers (declared : UInt8) (message : HubMessage) : List Event :=
  [.frameDecoded message.opcode message.handle declared (message.payload.length + 8),
    .hubMessageDecoded message.source message.messageType message.payload.length]

theorem verdicts_decode (wire : Bytes) :
    Verdicts (Frame.declaredByte wire).toNat (wire.length - 4)
      (layers (Frame.declaredByte wire)) (decode .permissive wire) (decode .strict wire) := by
  by_cases short : wire.length < minimumSize
  · simp only [decode, if_pos short]
    exact .short minimumSize wire.length
  · have long : 12 ≤ wire.length := Nat.le_of_not_lt short
    simp only [decode, if_neg short]
    match wire, long with
    | opcode :: low :: high :: dataLength ::
        sixth :: fifth :: fourth :: third :: second :: first ::
        typeLow :: typeHigh :: payload, _ =>
      -- Any frame of this size holds a message, so nothing fails behind the check.
      simp only [Frame.decode, Attempt.bind_assoc, Attempt.pure_bind]
      exact verdicts_check dataLength.toNat (payload.length + 8) (layers dataLength)
        ⟨opcode, Word16.ofBytes low high, ⟨first, second, third, fourth, fifth, sixth⟩,
          Word16.ofBytes typeLow typeHigh, payload⟩

end HubMessage

namespace MeshCommand

/-- The third and fourth byte of a mesh command, which declare the length of the rest. -/
def declaredWord (wire : Bytes) : UInt16 := Word16.ofBytes (wire.getD 2 0) (wire.getD 3 0)

def layers (command : MeshCommand) : List Event :=
  [.meshCommandDecoded command.channel command.target command.messageType]

theorem verdicts_decode (wire : Bytes) :
    Verdicts (declaredWord wire).toNat (wire.length - 4) layers
      (decode .permissive wire) (decode .strict wire) := by
  by_cases short : wire.length < headerSize
  · rw [decode_of_length_lt short, decode_of_length_lt short]
    exact .short headerSize wire.length
  · have long : 12 ≤ wire.length := Nat.le_of_not_lt short
    match wire, long with
    | channel :: reserved :: lengthLow :: lengthHigh ::
        sixth :: fifth :: fourth :: third :: second :: first ::
        typeLow :: typeHigh :: payload, _ =>
      have checked := verdicts_check (Word16.ofBytes lengthLow lengthHigh).toNat
        (8 + payload.length) layers
        ⟨channel, ⟨first, second, third, fourth, fifth, sixth⟩,
          Word16.ofBytes typeLow typeHigh, payload⟩
      have size : (channel :: reserved :: lengthLow :: lengthHigh ::
          sixth :: fifth :: fourth :: third :: second :: first ::
          typeLow :: typeHigh :: payload).length - 4 = 8 + payload.length := by
        simp only [List.length_cons]
        omega
      rw [size]
      exact checked

end MeshCommand

namespace LengthPolicy

end LengthPolicy

end RadioMesh
