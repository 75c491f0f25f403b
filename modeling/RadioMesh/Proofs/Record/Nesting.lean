import RadioMesh.Proofs.Record.HubMessage

/-!
# Scan results in hub messages in frames

A scan result travels inside a hub message, which travels inside a frame.  The count of the
result leaves room for 255 devices, the frame only for 27.  As long as both leave room, the
same devices come out again under either policy, and also from a longer byte string under
the permissive one.
-/

namespace RadioMesh

namespace HubMessage

theorem ofScanResult_of_length_le (opcode : UInt8) (handle : UInt16) (source : Address)
    {devices : List ScannedDevice} (few : devices.length ≤ 255) :
    ∃ payload, ScanResult.encode ⟨devices⟩ = .ok payload ∧
      ofScanResult opcode handle source ⟨devices⟩ =
        .ok ⟨opcode, handle, source, scanMessage, payload⟩ := by
  have encoded : ScanResult.encode ⟨devices⟩ =
      .ok (UInt8.ofNat devices.length :: devices.flatMap ScannedDevice.encode) :=
    ScanResult.encode_eq_ok_iff.mpr ⟨few, rfl⟩
  refine ⟨_, encoded, ?_⟩
  rw [ofScanResult, encoded]
  rfl

theorem ofScanResult_of_lt_length (opcode : UInt8) (handle : UInt16) (source : Address)
    {devices : List ScannedDevice} (many : 255 < devices.length) :
    ofScanResult opcode handle source ⟨devices⟩ =
      .error (.payloadTooLarge devices.length 255) := by
  have refused : ScanResult.encode ⟨devices⟩ = .error (.payloadTooLarge devices.length 255) :=
    ScanResult.encode_of_deviceLimit_lt many
  rw [ofScanResult, refused]
  rfl

/-- A payload that starts with a scan result has this result as its meaning. -/
theorem body_of_encode_eq_ok {message : HubMessage} {result : ScanResult}
    {encoded trailing : Bytes} (typed : message.messageType = scanMessage)
    (encodes : result.encode = .ok encoded) (starts : message.payload = encoded ++ trailing) :
    message.body = .ok (.scan result) := by
  rw [body, if_pos typed, starts, ScanResult.decode_append_of_encode_eq_ok encodes]
  rfl

/-- What a message with a short scan result becomes: a frame, and bytes from which it is read
back. -/
theorem nested_of_length_le {message : HubMessage} {result : ScanResult}
    (typed : message.messageType = scanMessage) (encoded : result.encode = .ok message.payload)
    (fits : result.devices.length ≤ 27) :
    ∃ (frame : Frame) (wire : Bytes), message.toFrame = .ok frame ∧ message.encode = .ok wire ∧
      (∀ policy, (decode policy wire).result = .ok message) ∧
      message.body = .ok (.scan result) ∧
      ∀ trailing, ∃ longer : HubMessage,
        (decode .permissive (wire ++ trailing)).result = .ok longer ∧
        longer.body = .ok (.scan result) := by
  have room : headerSize + message.payload.length ≤ Frame.dataLimit := by
    rw [ScanResult.length_of_encode_eq_ok encoded, headerSize, Frame.dataLimit]
    omega
  have framed := toFrame_eq_ok_iff.mpr ⟨room, rfl⟩
  have wired := encode_eq_ok_iff.mpr ⟨room, rfl⟩
  refine ⟨_, _, framed, wired, result_decode_of_encode_eq_ok wired, ?_, ?_⟩
  · exact body_of_encode_eq_ok typed encoded (List.append_nil message.payload).symm
  · intro trailing
    exact ⟨_, result_decode_append wired trailing, body_of_encode_eq_ok typed encoded rfl⟩

/-- A list of devices becomes a hub message if it has at most 255 devices and a frame if it
has at most 27, and then it is read back with everything around it. -/
theorem scan_result_survives_nesting (opcode : UInt8) (handle : UInt16) (source : Address)
    (devices : List ScannedDevice) :
    if devices.length ≤ 255 then
      ∃ message : HubMessage,
        ofScanResult opcode handle source ⟨devices⟩ = .ok message ∧
        if devices.length ≤ 27 then
          message.opcode = opcode ∧ message.handle = handle ∧ message.source = source ∧
            message.messageType = 101 ∧
            ∃ (frame : Frame) (wire : Bytes),
              message.toFrame = .ok frame ∧ message.encode = .ok wire ∧
              (∀ policy, (decode policy wire).result = .ok message) ∧
              message.body = .ok (.scan ⟨devices⟩) ∧
              ∀ trailing, ∃ longer : HubMessage,
                (decode .permissive (wire ++ trailing)).result = .ok longer ∧
                longer.body = .ok (.scan ⟨devices⟩)
        else message.toFrame = .error (.payloadTooLarge (9 + 9 * devices.length) 255)
    else
      ofScanResult opcode handle source ⟨devices⟩ =
        .error (.payloadTooLarge devices.length 255) := by
  split
  · next few =>
      obtain ⟨payload, encoded, built⟩ := ofScanResult_of_length_le opcode handle source few
      refine ⟨_, built, ?_⟩
      split
      · next fits => exact ⟨rfl, rfl, rfl, rfl, nested_of_length_le rfl encoded fits⟩
      · next many =>
          have counted : payload.length = 1 + 9 * devices.length :=
            ScanResult.length_of_encode_eq_ok encoded
          have size : headerSize + payload.length = 9 + 9 * devices.length := by
            rw [counted, headerSize]
            omega
          have large : Frame.dataLimit < headerSize + payload.length := by
            rw [size, Frame.dataLimit]
            omega
          rw [← size]
          exact toFrame_of_dataLimit_lt large
  · next many => exact ofScanResult_of_lt_length opcode handle source (Nat.lt_of_not_le many)

end HubMessage

end RadioMesh
