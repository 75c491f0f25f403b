import RadioMesh.Failure
import RadioMesh.Proofs.Record.ConfigRecord
import RadioMesh.Proofs.Record.Demand
import RadioMesh.Proofs.Record.HubMessage
import RadioMesh.Proofs.Record.MeshCommand

/-!
# Which bytes are records

Whether some bytes can be decoded depends on how many they are and on the lengths and counts
that they declare.  All others are refused as invalid data.
-/

namespace RadioMesh

/-- A result that is a value if the input is sound, and an error about invalid data if not. -/
inductive JudgedBy {α : Type} (sound : Prop) : Except WireError α → Prop where
  | accepted {value : α} :
      sound →
      JudgedBy sound (.ok value)
  | refused {error : WireError} :
      ¬sound →
      error.exitCode = ExitCode.dataInvalid →
      JudgedBy sound (.error error)

namespace JudgedBy

variable {α β : Type} {sound other : Prop} {result : Except WireError α}

theorem of_ite [Decidable sound] {value : α} {error : WireError}
    (invalid : error.exitCode = ExitCode.dataInvalid) :
    JudgedBy sound (if sound then .ok value else .error error) := by
  split
  · next holds => exact .accepted holds
  · next fails => exact .refused fails invalid

theorem congr (judged : JudgedBy sound result) (same : sound ↔ other) : JudgedBy other result :=
  propext same ▸ judged

theorem map (judged : JudgedBy sound result) (change : α → β) :
    JudgedBy sound (result.map change) := by
  cases judged with
  | accepted holds => exact .accepted holds
  | refused fails invalid => exact .refused fails invalid

theorem exists_iff (judged : JudgedBy sound result) : (∃ value, result = .ok value) ↔ sound := by
  cases judged with
  | @accepted value holds => exact iff_of_true ⟨value, rfl⟩ holds
  | refused fails invalid => simp [fails]

theorem exitCode_of_eq_error {error : WireError} (judged : JudgedBy sound result)
    (failed : result = .error error) : error.exitCode = ExitCode.dataInvalid := by
  cases judged with
  | accepted holds => cases failed
  | refused fails invalid =>
      cases failed
      exact invalid

end JudgedBy

namespace LengthPolicy

/-- Only the strict policy insists that the declared length is the length. -/
def Allows (policy : LengthPolicy) (declared actual : Nat) : Prop :=
  policy = .strict → declared = actual

instance (policy : LengthPolicy) (declared actual : Nat) :
    Decidable (policy.Allows declared actual) :=
  inferInstanceAs (Decidable (policy = .strict → declared = actual))

/-- What the permissive policy reads, either policy reads if it allows the lengths. -/
theorem Verdicts.result_eq {α : Type} {declared actual : Nat} {layers : α → List Event}
    {decode : LengthPolicy → Bytes → Attempt WireError α} {wire : Bytes} {value : α}
    (verdicts : Verdicts declared actual layers (decode .permissive wire) (decode .strict wire))
    (decoded : (decode .permissive wire).result = .ok value) (policy : LengthPolicy) :
    (decode policy wire).result =
      if policy.Allows declared actual then .ok value else .error (mismatch declared actual) := by
  cases policy with
  | permissive => simp [decoded, Allows]
  | strict => simp [verdicts.exacting_of_ok decoded, Allows]

end LengthPolicy

namespace Address

theorem judgedBy_decode (wire : Bytes) : JudgedBy (wire.length = size) (decode wire) := by
  unfold decode
  split
  · exact .accepted rfl
  · next other =>
      refine .refused ?_ rfl
      intro six
      match wire, six with
      | [sixth, fifth, fourth, third, second, first], _ =>
          exact other sixth fifth fourth third second first rfl

end Address

namespace Frame

/-- The bytes are enough for a header, and the policy allows the length that it declares. -/
def Fits (policy : LengthPolicy) (wire : Bytes) : Prop :=
  headerSize ≤ wire.length ∧
    policy.Allows (declaredByte wire).toNat (wire.length - headerSize)

instance (policy : LengthPolicy) (wire : Bytes) : Decidable (Fits policy wire) :=
  inferInstanceAs (Decidable (_ ∧ _))

theorem judgedBy_decode (policy : LengthPolicy) (wire : Bytes) :
    JudgedBy (Fits policy wire) (decode policy wire).result := by
  by_cases short : wire.length < headerSize
  · rw [decode_of_length_lt short]
    exact .refused (fun fits => Nat.not_le_of_lt short fits.1) rfl
  · have long : headerSize ≤ wire.length := Nat.le_of_not_lt short
    obtain ⟨frame, rfl⟩ := exists_encode_eq_of_headerSize_le long
    rw [(verdicts_decode _).result_eq frame.result_decode_permissive_encode policy]
    exact (JudgedBy.of_ite rfl).congr (and_iff_right long).symm

theorem judgedBy_ofData (opcode : UInt8) (handle : UInt16) (data : Bytes) :
    JudgedBy (data.length ≤ dataLimit) (ofData opcode handle data) :=
  .of_ite rfl

end Frame

namespace ScanResult

/-- The bytes are enough for the devices that the first of them counts. -/
def Fits (wire : Bytes) : Prop := 1 ≤ wire.length ∧ declaredSize wire ≤ wire.length

instance (wire : Bytes) : Decidable (Fits wire) := inferInstanceAs (Decidable (_ ∧ _))

theorem judgedBy_decode (wire : Bytes) : JudgedBy (Fits wire) (decode wire) := by
  cases wire with
  | nil => exact .refused (fun fits => Nat.not_succ_le_zero 0 fits.1) rfl
  | cons count rest =>
      have one : 1 ≤ (count :: rest).length := Nat.succ_le_succ (Nat.zero_le _)
      exact (JudgedBy.of_ite rfl).congr (and_iff_right one).symm

end ScanResult

namespace HubMessage

theorem judgedBy_body (message : HubMessage) :
    JudgedBy (message.messageType = scanMessage → ScanResult.Fits message.payload)
      message.body := by
  unfold body
  split
  · next typed =>
      have judged := (ScanResult.judgedBy_decode message.payload).map HubBody.scan
      exact judged.congr (imp_iff_right typed).symm
  · next other => exact .accepted fun typed => absurd typed other

/-- The bytes are enough for a frame with a message, the policy allows the length that it
declares, and if it is of the scan type, there are as many bytes as its payload counts. -/
def Fits (policy : LengthPolicy) (wire : Bytes) : Prop :=
  minimumSize ≤ wire.length ∧
    policy.Allows (Frame.declaredByte wire).toNat (wire.length - Frame.headerSize) ∧
    (Word16.ofBytes (wire.getD 10 0) (wire.getD 11 0) = scanMessage →
      ScanResult.Fits (wire.drop minimumSize))

instance (policy : LengthPolicy) (wire : Bytes) : Decidable (Fits policy wire) :=
  inferInstanceAs (Decidable (_ ∧ _ ∧ _))

/-- Work on a message that is judged by the meaning of its payload. -/
theorem judgedBy_decode_bind {α : Type} (policy : LengthPolicy) (wire : Bytes)
    {next : HubMessage → Except WireError α}
    (each : ∀ message : HubMessage,
      JudgedBy (message.messageType = scanMessage → ScanResult.Fits message.payload)
        (next message)) :
    JudgedBy (Fits policy wire) ((decode policy wire).result.bind next) := by
  by_cases short : wire.length < minimumSize
  · rw [decode, if_pos short]
    exact .refused (fun fits => Nat.not_le_of_lt short fits.1) rfl
  · have long : minimumSize ≤ wire.length := Nat.le_of_not_lt short
    obtain ⟨message, dataLength, rfl⟩ := exists_frame_of_minimumSize_le long
    rw [(verdicts_decode _).result_eq (message.result_decode_permissive dataLength) policy, Fits,
      and_iff_right long]
    split
    · next allowed =>
        apply (each message).congr
        rw [Frame.headerSize, and_iff_right allowed]
        simp [Frame.encode, data, Address.encode, Word16.toBytes, minimumSize, headerSize,
          Frame.headerSize]
    · next different => exact .refused (fun fits => different fits.1) rfl

theorem judgedBy_toFrame (opcode : UInt8) (handle : UInt16) (source : Address)
    (messageType : UInt16) (payload : Bytes) :
    JudgedBy (payload.length ≤ 247)
      (toFrame ⟨opcode, handle, source, messageType, payload⟩) := by
  let message : HubMessage := ⟨opcode, handle, source, messageType, payload⟩
  have size : message.data.length = 8 + payload.length := message.length_data
  apply (Frame.judgedBy_ofData opcode handle message.data).congr
  rw [size, Frame.dataLimit]
  omega

end HubMessage

namespace ConfigRecord

/-- The bytes are enough for a header, and for the payload that it declares. -/
def Fits (wire : Bytes) : Prop := headerSize ≤ wire.length ∧ declaredSize wire ≤ wire.length

instance (wire : Bytes) : Decidable (Fits wire) := inferInstanceAs (Decidable (_ ∧ _))

theorem judgedBy_decode (wire : Bytes) : JudgedBy (Fits wire) (decode wire).result := by
  by_cases headed : headerSize ≤ wire.length
  · by_cases enough : declaredSize wire ≤ wire.length
    · obtain ⟨record, decoded⟩ := result_decode_of_declaredSize_le headed enough
      rw [decoded]
      exact .accepted ⟨headed, enough⟩
    · rw [measures_decode.lacking wire headed (Nat.lt_of_not_le enough)]
      exact .refused (fun fits => enough fits.2) rfl
  · rw [measures_decode.short wire (Nat.lt_of_not_le headed)]
    exact .refused (fun fits => headed fits.1) rfl

theorem judgedBy_ofPayload_bind_encode (kind : UInt8) (payload : Bytes) :
    JudgedBy (payload.length ≤ payloadLimit) ((ofPayload kind payload).bind encode) := by
  by_cases fits : payload.length ≤ payloadLimit
  · have built : ofPayload kind payload = .ok ⟨kind, UInt16.ofNat payload.length, payload⟩ :=
      ofPayload_eq_ok_iff.mpr ⟨fits, rfl⟩
    have declared : (UInt16.ofNat payload.length).toNat = payload.length :=
      toNat_length_of_ofPayload_eq_ok built
    have encoded := @encode_of_consistent
      ⟨kind, UInt16.ofNat payload.length, payload⟩ declared
    rw [built, Except.bind, encoded]
    exact .accepted fits
  · rw [ofPayload, if_neg fits]
    exact .refused fits rfl

end ConfigRecord

namespace TrackedDevice

theorem judgedBy_decode (wire : Bytes) : JudgedBy (wire.length = size) (decode wire) := by
  by_cases same : wire.length = size
  · match wire, same with
    | [sixth, fifth, fourth, third, second, first, rssi], same => exact .accepted same
  · rw [decode_of_length_ne same]
    split
    · exact .refused same rfl
    · exact .refused same rfl

theorem judgedBy_decodeList (wire : Bytes) : JudgedBy (size ∣ wire.length) (decodeList wire) :=
  (JudgedBy.of_ite rfl).congr (Nat.dvd_iff_mod_eq_zero ..).symm

end TrackedDevice

namespace MeshCommand

/-- The bytes are enough for a header, and the policy allows the length that it declares. -/
def Fits (policy : LengthPolicy) (wire : Bytes) : Prop :=
  headerSize ≤ wire.length ∧ policy.Allows (declaredWord wire).toNat (wire.length - 4)

instance (policy : LengthPolicy) (wire : Bytes) : Decidable (Fits policy wire) :=
  inferInstanceAs (Decidable (_ ∧ _))

theorem judgedBy_decode (policy : LengthPolicy) (wire : Bytes) :
    JudgedBy (Fits policy wire) (decode policy wire).result := by
  by_cases short : wire.length < headerSize
  · rw [decode_of_length_lt short]
    exact .refused (fun fits => Nat.not_le_of_lt short fits.1) rfl
  · have long : headerSize ≤ wire.length := Nat.le_of_not_lt short
    obtain ⟨command, reserved, declared, rfl⟩ := exists_layout_of_headerSize_le long
    rw [(verdicts_decode _).result_eq (command.result_decode_layout reserved declared) policy]
    exact (JudgedBy.of_ite rfl).congr (and_iff_right long).symm

theorem judgedBy_encode (channel : UInt8) (target : Address) (messageType : UInt16)
    (payload : Bytes) :
    JudgedBy (payload.length ≤ payloadLimit) (encode ⟨channel, target, messageType, payload⟩) :=
  .of_ite rfl

end MeshCommand

namespace RecordKind

/-- Some bytes can be decoded as a record of a kind, a hub message with its meaning. -/
def Decodes (policy : LengthPolicy) (wire : Bytes) : RecordKind → Prop
  | address => ∃ device, Address.decode wire = .ok device
  | frame => ∃ envelope, (Frame.decode policy wire).result = .ok envelope
  | hub => ∃ message, (HubMessage.decode policy wire).result = .ok message ∧
      ∃ body, message.body = .ok body
  | config => ∃ record, (ConfigRecord.decode wire).result = .ok record
  | tracked => ∃ device, TrackedDevice.decode wire = .ok device
  | trackedList => ∃ devices, TrackedDevice.decodeList wire = .ok devices
  | command => ∃ message, (MeshCommand.decode policy wire).result = .ok message

/-- The number of the bytes, and the lengths and counts that they declare, are those of a
record. -/
def Fits (policy : LengthPolicy) (wire : Bytes) : RecordKind → Prop
  | address => wire.length = Address.size
  | frame => Frame.Fits policy wire
  | hub => HubMessage.Fits policy wire
  | config => ConfigRecord.Fits wire
  | tracked => wire.length = TrackedDevice.size
  | trackedList => TrackedDevice.size ∣ wire.length
  | command => MeshCommand.Fits policy wire

theorem decodes_iff_fits (kind : RecordKind) (policy : LengthPolicy) (wire : Bytes) :
    kind.Decodes policy wire ↔ kind.Fits policy wire := by
  cases kind with
  | address => exact (Address.judgedBy_decode wire).exists_iff
  | frame => exact (Frame.judgedBy_decode policy wire).exists_iff
  | hub =>
      have judged := HubMessage.judgedBy_decode_bind policy wire HubMessage.judgedBy_body
      rw [Decodes, Fits, ← judged.exists_iff]
      cases (HubMessage.decode policy wire).result <;> simp [Except.bind]
  | config => exact (ConfigRecord.judgedBy_decode wire).exists_iff
  | tracked => exact (TrackedDevice.judgedBy_decode wire).exists_iff
  | trackedList => exact (TrackedDevice.judgedBy_decodeList wire).exists_iff
  | command => exact (MeshCommand.judgedBy_decode policy wire).exists_iff

instance (kind : RecordKind) (policy : LengthPolicy) (wire : Bytes) :
    Decidable (kind.Fits policy wire) :=
  match kind with
  | address => inferInstanceAs (Decidable (_ = _))
  | frame => inferInstanceAs (Decidable (Frame.Fits policy wire))
  | hub => inferInstanceAs (Decidable (HubMessage.Fits policy wire))
  | config => inferInstanceAs (Decidable (ConfigRecord.Fits wire))
  | tracked => inferInstanceAs (Decidable (_ = _))
  | trackedList => inferInstanceAs (Decidable (_ ∣ _))
  | command => inferInstanceAs (Decidable (MeshCommand.Fits policy wire))

end RecordKind

end RadioMesh
