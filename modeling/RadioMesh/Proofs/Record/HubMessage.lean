import RadioMesh.Proofs.Record.Frame
import RadioMesh.Proofs.Record.ScanResult

/-!
# Reading and writing hub messages

A hub message that fits into a frame is read back under either policy.  The permissive
policy counts bytes behind the frame to the payload.  It reads a message from the frames with
its data, whatever length they declare, so a message that was read is written back as the
bytes from which it was read, with their length declared.
-/

namespace RadioMesh

namespace HubMessage

/-- The data of the frame around a message. -/
def data (message : HubMessage) : Bytes :=
  message.source.encode ++ Word16.toBytes message.messageType ++ message.payload

theorem length_data (message : HubMessage) :
    message.data.length = headerSize + message.payload.length := by
  rw [data, List.length_append, List.length_append, Address.length_encode,
    Word16.length_toBytes]
  rfl

theorem toFrame_eq_ok_iff {message : HubMessage} {frame : Frame} :
    message.toFrame = .ok frame ↔ headerSize + message.payload.length ≤ Frame.dataLimit ∧
      frame = ⟨message.opcode, message.handle, UInt8.ofNat message.data.length,
        message.data⟩ := by
  rw [← length_data]
  exact Frame.ofData_eq_ok_iff

theorem toFrame_of_dataLimit_lt {message : HubMessage}
    (large : Frame.dataLimit < headerSize + message.payload.length) :
    message.toFrame =
      .error (.payloadTooLarge (headerSize + message.payload.length) Frame.dataLimit) := by
  rw [← length_data] at large ⊢
  exact Frame.ofData_of_dataLimit_lt large message.opcode message.handle

theorem encode_eq_ok_iff {message : HubMessage} {wire : Bytes} :
    message.encode = .ok wire ↔ headerSize + message.payload.length ≤ Frame.dataLimit ∧
      wire = Frame.encode ⟨message.opcode, message.handle, UInt8.ofNat message.data.length,
        message.data⟩ := by
  unfold encode
  constructor
  · intro encoded
    cases built : message.toFrame with
    | error error =>
        rw [built] at encoded
        cases encoded
    | ok frame =>
        rw [built] at encoded
        cases encoded
        obtain ⟨fits, rfl⟩ := toFrame_eq_ok_iff.mp built
        exact ⟨fits, rfl⟩
  · rintro ⟨fits, rfl⟩
    rw [toFrame_eq_ok_iff.mpr ⟨fits, rfl⟩]
    rfl

theorem ofFrame_data (message : HubMessage) (dataLength : UInt8) :
    ofFrame ⟨message.opcode, message.handle, dataLength, message.data⟩ = .ok message := by
  simp [ofFrame, data, Address.encode, Word16.toBytes]

/-- The frame of a message that declares the length of its data is built from the message. -/
theorem toFrame_of_ofFrame_eq_ok {frame : Frame} {message : HubMessage}
    (consistent : frame.isConsistent = true) (read : ofFrame frame = .ok message) :
    message.toFrame = .ok frame := by
  have parts : message.opcode = frame.opcode ∧ message.handle = frame.handle ∧
      message.data = frame.data := by
    unfold ofFrame at read
    split at read
    · next content =>
        cases read
        simp [data, Address.encode, Word16.toBytes, content]
    · cases read
  obtain ⟨opcode, handle, content⟩ := parts
  rw [← Frame.ofData_of_isConsistent consistent, ← opcode, ← handle, ← content]
  rfl

/-- A byte string that has room for the header of a message is read as a frame, and then the
message is read from the frame. -/
theorem result_decode_of_minimumSize_le {wire : Bytes} (long : minimumSize ≤ wire.length)
    (policy : LengthPolicy) :
    (decode policy wire).result = (Frame.decode policy wire).result.bind ofFrame := by
  rw [decode, if_neg (Nat.not_lt_of_le long), Attempt.result_bind]
  simp only [Attempt.result_bind_report]
  rfl

/-- The permissive policy reads a message from any frame with its data, whatever length the
frame declares. -/
theorem result_decode_permissive (message : HubMessage) (dataLength : UInt8) :
    (decode .permissive
        (Frame.encode ⟨message.opcode, message.handle, dataLength, message.data⟩)).result =
      .ok message := by
  have long : minimumSize ≤ (Frame.encode
      ⟨message.opcode, message.handle, dataLength, message.data⟩).length := by
    rw [Frame.length_encode, Frame.wireSize, length_data, minimumSize]
    omega
  rw [result_decode_of_minimumSize_le long, Frame.result_decode_permissive_encode]
  exact ofFrame_data message dataLength

/-- Bytes behind a message belong to its payload under the permissive policy. -/
theorem result_decode_append {message : HubMessage} {wire : Bytes}
    (encoded : message.encode = .ok wire) (trailing : Bytes) :
    (decode .permissive (wire ++ trailing)).result =
      .ok { message with payload := message.payload ++ trailing } := by
  obtain ⟨_, rfl⟩ := encode_eq_ok_iff.mp encoded
  have longer := result_decode_permissive
    { message with payload := message.payload ++ trailing } (UInt8.ofNat message.data.length)
  simpa [Frame.encode, data] using longer

theorem result_decode_of_encode_eq_ok {message : HubMessage} {wire : Bytes}
    (encoded : message.encode = .ok wire) (policy : LengthPolicy) :
    (decode policy wire).result = .ok message := by
  have lenient : (decode .permissive wire).result = .ok message := by
    simpa using result_decode_append encoded []
  cases policy with
  | permissive => exact lenient
  | strict =>
      obtain ⟨fits, rfl⟩ := encode_eq_ok_iff.mp encoded
      rw [(verdicts_decode _).exacting_of_ok lenient]
      rw [← length_data] at fits
      simp [Frame.encode, Frame.declaredByte, Frame.toNat_ofNat_length fits]

theorem encode_of_dataLimit_lt {message : HubMessage}
    (large : Frame.dataLimit < headerSize + message.payload.length) :
    message.encode =
      .error (.payloadTooLarge (headerSize + message.payload.length) Frame.dataLimit) := by
  rw [encode, toFrame_of_dataLimit_lt large]
  rfl

theorem toFrame_bind_ofFrame {message : HubMessage}
    (fits : headerSize + message.payload.length ≤ Frame.dataLimit) :
    message.toFrame.bind ofFrame = .ok message := by
  rw [toFrame_eq_ok_iff.mpr ⟨fits, rfl⟩]
  exact ofFrame_data message _

theorem exists_frame_of_minimumSize_le {wire : Bytes} (long : minimumSize ≤ wire.length) :
    ∃ (message : HubMessage) (dataLength : UInt8),
      wire = Frame.encode ⟨message.opcode, message.handle, dataLength, message.data⟩ := by
  match wire, long with
  | opcode :: low :: high :: dataLength ::
      sixth :: fifth :: fourth :: third :: second :: first ::
      typeLow :: typeHigh :: payload, _ =>
    refine ⟨⟨opcode, Word16.ofBytes low high, ⟨first, second, third, fourth, fifth, sixth⟩,
      Word16.ofBytes typeLow typeHigh, payload⟩, dataLength, ?_⟩
    simp [Frame.encode, data, Address.encode, Word16.toBytes]

/-- The permissive policy reads a message from the frames with its data, and from no other
bytes. -/
theorem result_decode_permissive_eq_ok_iff {wire : Bytes} {message : HubMessage} :
    (decode .permissive wire).result = .ok message ↔
      ∃ dataLength : UInt8,
        wire = Frame.encode ⟨message.opcode, message.handle, dataLength, message.data⟩ := by
  constructor
  · intro decoded
    by_cases short : wire.length < minimumSize
    · rw [decode, if_pos short] at decoded
      cases decoded
    · obtain ⟨other, dataLength, rfl⟩ :=
        exists_frame_of_minimumSize_le (Nat.le_of_not_lt short)
      rw [result_decode_permissive] at decoded
      cases decoded
      exact ⟨dataLength, rfl⟩
  · rintro ⟨dataLength, rfl⟩
    exact result_decode_permissive message dataLength

theorem length_of_result_decode_eq_ok {wire : Bytes} {message : HubMessage}
    (decoded : (decode .permissive wire).result = .ok message) :
    wire.length = minimumSize + message.payload.length := by
  obtain ⟨dataLength, rfl⟩ := result_decode_permissive_eq_ok_iff.mp decoded
  rw [Frame.length_encode, Frame.wireSize, length_data, minimumSize, Nat.add_assoc]

/-- A message that was read is written as the bytes from which it was read, with their length
declared. -/
theorem encode_of_result_decode_eq_ok {wire : Bytes} {message : HubMessage}
    (decoded : (decode .permissive wire).result = .ok message)
    (fits : headerSize + message.payload.length ≤ Frame.dataLimit) :
    message.encode = .ok (Frame.redeclared wire) := by
  obtain ⟨dataLength, rfl⟩ := result_decode_permissive_eq_ok_iff.mp decoded
  rw [Frame.redeclared_encode]
  exact encode_eq_ok_iff.mpr ⟨fits, rfl⟩

/-- Messages and their bytes correspond.  A message with at most 247 bytes of payload is
written and read back under either policy.  Reading a message is reading a frame and then the
message in it.  And a message that was read is written if the bytes were at most 259, and then
as these bytes with their length declared, from which it is read again. -/
theorem messages_round_trip :
    (∀ message : HubMessage,
      if message.payload.length ≤ 247 then
        ∃ wire, message.encode = .ok wire ∧
          (∀ policy, (decode policy wire).result = .ok message) ∧
          message.toFrame.bind ofFrame = .ok message
      else message.encode = .error (.payloadTooLarge (8 + message.payload.length) 255)) ∧
    (∀ policy wire, 12 ≤ wire.length →
      (decode policy wire).result = (Frame.decode policy wire).result.bind ofFrame) ∧
    (∀ wire message, (decode .permissive wire).result = .ok message →
      if wire.length ≤ 259 then
        message.encode = .ok (wire.set 3 (UInt8.ofNat (wire.length - 4))) ∧
          ∀ policy, (decode policy (wire.set 3 (UInt8.ofNat (wire.length - 4)))).result =
            .ok message
      else message.encode = .error (.payloadTooLarge (wire.length - 4) 255)) := by
  refine ⟨?_, ?_, ?_⟩
  · intro message
    split
    · next small =>
        have fits : headerSize + message.payload.length ≤ Frame.dataLimit := by
          rw [headerSize, Frame.dataLimit]
          omega
        have encoded := encode_eq_ok_iff.mpr ⟨fits, rfl⟩
        exact ⟨_, encoded, result_decode_of_encode_eq_ok encoded, toFrame_bind_ofFrame fits⟩
    · next large =>
        apply encode_of_dataLimit_lt
        rw [headerSize, Frame.dataLimit]
        omega
  · intro policy wire long
    exact result_decode_of_minimumSize_le long policy
  · intro wire message decoded
    have size := length_of_result_decode_eq_ok decoded
    rw [minimumSize, Frame.headerSize, headerSize] at size
    split
    · next small =>
        have encoded := encode_of_result_decode_eq_ok decoded
          (by rw [headerSize, Frame.dataLimit]; omega)
        exact ⟨encoded, result_decode_of_encode_eq_ok encoded⟩
    · next large =>
        have behind : wire.length - 4 = headerSize + message.payload.length := by
          rw [headerSize]
          omega
        rw [behind]
        apply encode_of_dataLimit_lt
        rw [headerSize, Frame.dataLimit]
        omega

/-- A message in a frame that declares 99 bytes and has nine. -/
theorem messages_round_trip_of_misdeclared_frame :
    let wire : Bytes :=
      [0x01, 0x17, 0x00, 99, 0xa5, 0xa4, 0xa3, 0xa2, 0xa1, 0xa0, 0x34, 0x12, 7]
    let message : HubMessage :=
      ⟨0x01, 0x17, ⟨0xa0, 0xa1, 0xa2, 0xa3, 0xa4, 0xa5⟩, 0x1234, [7]⟩
    12 ≤ wire.length ∧
      (decode .strict wire).result = (Frame.decode .strict wire).result.bind ofFrame ∧
      (decode .permissive wire).result = .ok message ∧
      message.encode =
        .ok [0x01, 0x17, 0x00, 9, 0xa5, 0xa4, 0xa3, 0xa2, 0xa1, 0xa0, 0x34, 0x12, 7] := by
  intro wire message
  have long : 12 ≤ wire.length := by decide
  have decoded : (decode .permissive wire).result = .ok message := rfl
  obtain ⟨_, nested, rewritten⟩ := messages_round_trip
  exact ⟨long, nested .strict wire long, decoded, (rewritten wire message decoded).1⟩

end HubMessage

end RadioMesh
