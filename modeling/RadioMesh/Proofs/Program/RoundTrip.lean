import RadioMesh.Proofs.Address
import RadioMesh.Proofs.Capture.Dumping
import RadioMesh.Proofs.Record.ConfigRecord
import RadioMesh.Proofs.Record.MeshCommand
import RadioMesh.Proofs.Record.Nesting
import RadioMesh.Proofs.Record.TrackedDevice

/-!
# Decoding what was encoded

When the program has encoded a record, it decodes the digits that it printed to the fields
that it was given.  A frame that declares another length than that of its data is decoded
under the permissive policy only, and a hub message of the scan type only if its payload
starts with a scan result.
-/

namespace RadioMesh

open Text

namespace Program

/-- Some bytes, given as digits, are decoded to a record, which is all that is printed. -/
def Shows (kind : RecordKind) (policy : LengthPolicy) (bytes : Bytes) (sheet : Sheet) : Prop :=
  ∀ environment format,
    (decoded environment kind policy format bytes).code = 0 ∧
      sheet.Printed format (decoded environment kind policy format bytes).stdout

/-- Some bytes, given as digits, are refused as invalid data, and nothing is printed. -/
def Refuses (kind : RecordKind) (policy : LengthPolicy) (bytes : Bytes) : Prop :=
  ∀ environment format,
    (decoded environment kind policy format bytes).code = 60 ∧
      (decoded environment kind policy format bytes).stdout = []

theorem shows_of_view {kind : RecordKind} {policy : LengthPolicy} {bytes : Bytes} {view : View}
    {sheet : Sheet} (told : view.sheet = sheet)
    (viewed : (Conversion.viewOf policy bytes kind).result = .ok view) :
    Shows kind policy bytes sheet := by
  intro environment format
  have reports := @decoded_of_view environment kind policy format bytes view viewed
  refine ⟨reports.code, ?_⟩
  rw [reports.stdout, List.flatMap_singleton, ← told]
  exact view.printed_render format

theorem refuses_of_error {kind : RecordKind} {policy : LengthPolicy} {bytes : Bytes}
    {error : WireError} (refused : (Conversion.viewOf policy bytes kind).result = .error error)
    (invalid : error.exitCode = 60) : Refuses kind policy bytes := by
  intro environment format
  have reports := @decoded_of_error environment kind policy format bytes error refused
  exact ⟨reports.code.trans invalid, reports.stdout⟩

end Program

open Program

/-- The frame to which the bytes of an encoded frame are decoded. -/
structure FrameFields.ReadBack (fields : FrameFields) (bytes : Bytes) (frame : Frame) :
    Prop where
  opcode : frame.opcode = fields.opcode
  handle : frame.handle = fields.handle
  data : HexInput.parse fields.data = .ok frame.data
  declared : frame.dataLength.toNat =
    match fields.dataLength with
    | some dataLength => dataLength.toNat
    | none => frame.data.length
  permissive : Shows .frame .permissive bytes frame.sheet
  strict : if frame.dataLength.toNat = frame.data.length then
      Shows .frame .strict bytes frame.sheet
    else Refuses .frame .strict bytes

/-- The hub message to which the bytes of an encoded one are decoded. -/
structure HubFields.ReadBack (fields : HubFields) (bytes : Bytes) (message : HubMessage) :
    Prop where
  opcode : message.opcode = fields.opcode
  handle : message.handle = fields.handle
  source : message.source.text = fields.source.toLower
  broadcast : message.source.isBroadcast = true ↔ fields.source = "00:00:00:00:00:00"
  messageType : message.messageType = fields.messageType
  payload : HexInput.parse fields.payload = .ok message.payload
  raw : message.messageType ≠ 101 → ∀ policy, Shows .hub policy bytes (message.sheet none)
  listed : message.messageType = 101 → ∀ (result : ScanResult) (encoded trailing : Bytes),
    result.encode = .ok encoded → message.payload = encoded ++ trailing →
    ∀ policy, Shows .hub policy bytes (message.sheet (some result.devices))
  refused : message.messageType = 101 →
    (∀ (result : ScanResult) (encoded trailing : Bytes),
      result.encode = .ok encoded → message.payload ≠ encoded ++ trailing) →
    ∀ policy, Refuses .hub policy bytes

/-- The configuration record to which the bytes of an encoded one are decoded. -/
structure ConfigFields.ReadBack (fields : ConfigFields) (bytes : Bytes)
    (record : ConfigRecord) : Prop where
  kind : record.kind = fields.kind
  length : record.length.toNat = record.payload.length
  payload : HexInput.parse fields.payload = .ok record.payload
  value : record.value? =
    if record.payload.length = 1 ∨ record.payload.length = 2 ∨ record.payload.length = 4 then
      some (Bytes.number record.payload)
    else none
  shown : ∀ policy, Shows .config policy bytes record.sheet

/-- The tracked device to which the bytes of an encoded one are decoded. -/
structure TrackedFields.ReadBack (fields : TrackedFields) (bytes : Bytes)
    (device : TrackedDevice) : Prop where
  address : device.address.text = fields.address.toLower
  rssi : device.rssi = fields.rssi
  shown : ∀ policy, Shows .tracked policy bytes device.sheet
  listed : ∀ policy, Shows .trackedList policy bytes (TrackedDevice.listSheet [device])

/-- The mesh command to which the bytes of an encoded one are decoded. -/
structure CommandFields.ReadBack (fields : CommandFields) (bytes : Bytes)
    (command : MeshCommand) : Prop where
  channel : command.channel = fields.channel
  target : command.target.text = fields.target.toLower
  broadcast : command.target.isBroadcast = true ↔ fields.target = "00:00:00:00:00:00"
  messageType : command.messageType = fields.messageType
  payload : HexInput.parse fields.payload = .ok command.payload
  shown : ∀ policy, Shows .command policy bytes command.sheet

namespace EncodeRequest

/-- The kind of record that is encoded. -/
def kind : EncodeRequest → RecordKind
  | frame _ => .frame
  | hub _ => .hub
  | config _ => .config
  | tracked _ => .tracked
  | command _ => .command

/-- Decoding the bytes of a record shows the fields from which it was encoded. -/
def ReadBack (bytes : Bytes) : EncodeRequest → Prop
  | frame fields => ∃ frame, fields.ReadBack bytes frame
  | hub fields => ∃ message, fields.ReadBack bytes message
  | config fields => ∃ record, fields.ReadBack bytes record
  | tracked fields => ∃ device, fields.ReadBack bytes device
  | command fields => ∃ command, fields.ReadBack bytes command

end EncodeRequest

namespace Conversion

theorem parse_of_bytesOf {text : String} {bytes : Bytes} (given : bytesOf text = .ok bytes) :
    HexInput.parse text = .ok bytes :=
  eq_ok_of_mapError_eq_ok given

theorem parse_of_addressOf {text : String} {address : Address}
    (given : addressOf text = .ok address) : Address.parse text = .ok address :=
  eq_ok_of_mapError_eq_ok given

theorem shows_frame_encode (frame : Frame) :
    Shows .frame .permissive frame.encode frame.sheet := by
  apply shows_of_view (View.sheet_frame frame)
  rw [viewOf, Attempt.result_map, frame.result_decode_permissive_encode]
  rfl

theorem judged_frame_encode (frame : Frame) :
    if frame.dataLength.toNat = frame.data.length then
      Shows .frame .strict frame.encode frame.sheet
    else Refuses .frame .strict frame.encode := by
  have viewed : (viewOf .strict frame.encode .frame).result =
      Except.map View.frame (if frame.dataLength.toNat = frame.data.length then .ok frame
        else .error (LengthPolicy.mismatch frame.dataLength.toNat frame.data.length)) := by
    rw [viewOf, Attempt.result_map, frame.result_decode_strict_encode]
  split
  · next same =>
      rw [if_pos same] at viewed
      exact shows_of_view (View.sheet_frame frame) viewed
  · next different =>
      rw [if_neg different] at viewed
      exact refuses_of_error viewed rfl

theorem toNat_dataLength_of_frameOf {fields : FrameFields} {frame : Frame}
    (built : frameOf fields = .ok frame) :
    frame.dataLength.toNat =
      match fields.dataLength with
      | some dataLength => dataLength.toNat
      | none => frame.data.length := by
  obtain ⟨data, _, built⟩ := exists_of_bind_eq_ok built
  obtain ⟨first, sized, declared⟩ := exists_of_bind_eq_ok built
  obtain ⟨fits, rfl⟩ := Frame.ofData_eq_ok_iff.mp (eq_ok_of_mapError_eq_ok sized)
  cases chosen : fields.dataLength with
  | none =>
      rw [chosen] at declared
      cases declared
      exact Frame.toNat_ofNat_length fits
  | some dataLength =>
      rw [chosen] at declared
      cases declared
      rfl

theorem readBack_of_frameOf {fields : FrameFields} {frame : Frame}
    (built : frameOf fields = .ok frame) : fields.ReadBack frame.encode frame := by
  cases describes_of_frameOf built with
  | frame data opcode handle =>
      exact ⟨opcode, handle, data, toNat_dataLength_of_frameOf built,
        shows_frame_encode frame, judged_frame_encode frame⟩

/-- The meaning of a hub message decides whether its bytes are decoded. -/
theorem result_viewOf_hub_of_encode_eq_ok {message : HubMessage} {wire : Bytes}
    (encoded : message.encode = .ok wire) (policy : LengthPolicy) :
    (viewOf policy wire .hub).result = message.body.map (View.hub message) := by
  rw [result_viewOf_hub, HubMessage.result_decode_of_encode_eq_ok encoded]
  rfl

theorem readBack_of_hubFrameOf {fields : HubFields} {frame : Frame}
    (built : hubFrameOf fields = .ok frame) :
    ∃ message, fields.ReadBack frame.encode message := by
  obtain ⟨source, addressed, built⟩ := exists_of_bind_eq_ok built
  obtain ⟨payload, given, framed⟩ := exists_of_bind_eq_ok built
  let message : HubMessage :=
    ⟨fields.opcode, fields.handle, source, fields.messageType, payload⟩
  have encoded : message.encode = .ok frame.encode := by
    have framed : message.toFrame = .ok frame := eq_ok_of_mapError_eq_ok framed
    rw [HubMessage.encode, framed]
    rfl
  have viewed := result_viewOf_hub_of_encode_eq_ok encoded
  have address := parse_of_addressOf addressed
  refine ⟨message, rfl, rfl, Address.text_of_parse_eq_ok address,
    Address.isBroadcast_iff_of_parse_eq_ok address, rfl, parse_of_bytesOf given, ?_, ?_, ?_⟩
  · intro other policy
    have raw : message.body = .ok (.raw message.messageType message.payload) := if_neg other
    rw [raw] at viewed
    exact shows_of_view (View.sheet_hub message _) (viewed policy)
  · intro typed result record trailing encodes starts policy
    rw [HubMessage.body_of_encode_eq_ok typed encodes starts] at viewed
    exact shows_of_view (View.sheet_hub message _) (viewed policy)
  · intro typed unlike policy
    have body : message.body = (ScanResult.decode message.payload).map .scan := if_pos typed
    cases scanned : ScanResult.decode message.payload with
    | ok result =>
        obtain ⟨record, trailing, encodes, starts⟩ := ScanResult.decode_eq_ok_iff.mp scanned
        exact absurd starts (unlike result record trailing encodes)
    | error error =>
        rw [scanned] at body
        rw [body] at viewed
        have invalid := (ScanResult.judgedBy_decode message.payload).exitCode_of_eq_error scanned
        exact refuses_of_error (viewed policy) invalid

theorem readBack_of_configBytesOf {fields : ConfigFields} {bytes : Bytes}
    (built : configBytesOf fields = .ok bytes) : ∃ record, fields.ReadBack bytes record := by
  obtain ⟨payload, given, built⟩ := exists_of_bind_eq_ok built
  obtain ⟨record, sized, encoded⟩ := exists_of_bind_eq_ok built
  have sized := eq_ok_of_mapError_eq_ok sized
  have encoded := eq_ok_of_mapError_eq_ok encoded
  have length := ConfigRecord.toNat_length_of_ofPayload_eq_ok sized
  have decoded := ConfigRecord.result_decode_append_of_encode_eq_ok encoded []
  rw [List.append_nil] at decoded
  obtain ⟨_, rfl⟩ := ConfigRecord.ofPayload_eq_ok_iff.mp sized
  refine ⟨_, rfl, length, parse_of_bytesOf given, ConfigRecord.value?_eq _, ?_⟩
  intro policy
  apply shows_of_view (View.sheet_config _)
  rw [viewOf, Attempt.result_map, decoded]
  rfl

theorem readBack_of_trackedBytesOf {fields : TrackedFields} {bytes : Bytes}
    (built : trackedBytesOf fields = .ok bytes) : ∃ device, fields.ReadBack bytes device := by
  obtain ⟨address, addressed, encoded⟩ := exists_of_bind_eq_ok built
  cases encoded
  let device : TrackedDevice := ⟨address, fields.rssi⟩
  refine ⟨device, Address.text_of_parse_eq_ok (parse_of_addressOf addressed), rfl, ?_, ?_⟩
  · intro policy
    apply shows_of_view (View.sheet_tracked device)
    rw [viewOf, device.decode_encode]
    rfl
  · intro policy
    apply shows_of_view (View.sheet_trackedList [device])
    rw [viewOf, device.decodeList_encode]
    rfl

theorem readBack_of_commandBytesOf {fields : CommandFields} {bytes : Bytes}
    (built : commandBytesOf fields = .ok bytes) : ∃ command, fields.ReadBack bytes command := by
  obtain ⟨target, addressed, built⟩ := exists_of_bind_eq_ok built
  obtain ⟨payload, given, encoded⟩ := exists_of_bind_eq_ok built
  let command : MeshCommand := ⟨fields.channel, target, fields.messageType, payload⟩
  have encoded : command.encode = .ok bytes := eq_ok_of_mapError_eq_ok encoded
  have address := parse_of_addressOf addressed
  refine ⟨command, rfl, Address.text_of_parse_eq_ok address,
    Address.isBroadcast_iff_of_parse_eq_ok address, rfl, parse_of_bytesOf given, ?_⟩
  intro policy
  apply shows_of_view (View.sheet_command command)
  rw [viewOf, Attempt.result_map, MeshCommand.result_decode_of_encode_eq_ok encoded]
  rfl

theorem exists_of_encodeFrame_eq_ok {directory : Directory} {kind : RecordKind}
    {built : Except Failure Frame} {capture : Option String} {view : View}
    (shown : (encodeFrame directory kind built capture).2.result = .ok view) :
    ∃ frame, built = .ok frame ∧ view = .encoded kind frame.encode := by
  cases built with
  | error failure => cases shown
  | ok frame =>
      refine ⟨frame, rfl, ?_⟩
      cases capture with
      | none =>
          cases shown
          rfl
      | some path =>
          simp only [encodeFrame, Attempt.result_bind] at shown
          cases appended : (Capture.append directory path frame).2.result with
          | error failure =>
              rw [appended] at shown
              cases shown
          | ok done =>
              rw [appended] at shown
              cases shown
              rfl

theorem exists_of_encodeBytes_eq_ok {kind : RecordKind} {built : Except Failure Bytes}
    {view : View} (shown : (encodeBytes kind built).result = .ok view) :
    ∃ bytes, built = .ok bytes ∧ view = .encoded kind bytes := by
  cases built with
  | error failure => cases shown
  | ok bytes =>
      cases shown
      exact ⟨bytes, rfl, rfl⟩

/-- What is shown of an encoded record is its bytes, and these are read back. -/
theorem readBack_of_encode {directory : Directory} {request : EncodeRequest} {view : View}
    (shown : (encode directory request).2.result = .ok view) :
    ∃ bytes, view = .encoded request.kind bytes ∧ request.ReadBack bytes := by
  cases request with
  | frame fields =>
      obtain ⟨frame, built, rfl⟩ := exists_of_encodeFrame_eq_ok shown
      exact ⟨_, rfl, frame, readBack_of_frameOf built⟩
  | hub fields =>
      obtain ⟨frame, built, rfl⟩ := exists_of_encodeFrame_eq_ok shown
      exact ⟨_, rfl, readBack_of_hubFrameOf built⟩
  | config fields =>
      obtain ⟨bytes, built, rfl⟩ := exists_of_encodeBytes_eq_ok shown
      exact ⟨bytes, rfl, readBack_of_configBytesOf built⟩
  | tracked fields =>
      obtain ⟨bytes, built, rfl⟩ := exists_of_encodeBytes_eq_ok shown
      exact ⟨bytes, rfl, readBack_of_trackedBytesOf built⟩
  | command fields =>
      obtain ⟨bytes, built, rfl⟩ := exists_of_encodeBytes_eq_ok shown
      exact ⟨bytes, rfl, readBack_of_commandBytesOf built⟩

end Conversion

namespace Program

/-- What the program prints of an encoded record are the digits of its bytes, or in the raw
format the bytes, and from these digits it decodes the fields that it was given. -/
theorem encode_reads_back {environment : Environment} {words : List String}
    {request : EncodeRequest} {shared : CommandLine.Shared}
    (understood : CommandLine.read words = .ok ⟨.encode request, shared⟩)
    (success : (execute environment words).code = 0) :
    ∃ bytes,
      (Sheet.encoded request.kind bytes).Printed
        (format ⟨.encode request, shared⟩ environment.terminal)
        (execute environment words).stdout ∧
      request.ReadBack bytes := by
  cases shown : (Conversion.encode environment.directory request).2.result with
  | error failure =>
      have reports := reports_of_error understood (run_encode environment request) shown
      rw [reports.code] at success
      exact absurd success failure.exitCode_ne_success
  | ok view =>
      obtain ⟨bytes, rfl, readBack⟩ := Conversion.readBack_of_encode shown
      refine ⟨bytes, ?_, readBack⟩
      have reports := reports_of_ok understood (run_encode environment request) shown
      rw [reports.stdout, List.flatMap_singleton, ← View.sheet_encoded]
      exact View.printed_render _ _

/-- An empty scan result in a hub message from an address in mixed case, for a terminal. -/
theorem encode_reads_back_of_empty_scan :
    let environment : Environment := ⟨.ofFiles [] [], [], 0, 0, 0, .current, true⟩
    let words := ["encode", "hub", "--type", "101", "--source", "0A:0b:0C:0d:0E:0f",
      "--payload", "00"]
    ∃ (bytes : Bytes) (message : HubMessage),
      (Sheet.encoded .hub bytes).Printed .table (execute environment words).stdout ∧
      message.source.text = "0a:0b:0c:0d:0e:0f" ∧
      message.payload = [0] ∧
      ∀ policy, Shows .hub policy bytes (message.sheet (some [])) := by
  intro environment words
  have understood : CommandLine.read words =
      .ok ⟨.encode (.hub ⟨0, 0, "0A:0b:0C:0d:0E:0f", 101, "00", none⟩), {}⟩ := by rfl
  have success : (execute environment words).code = 0 := by
    rw [execute, understood]
    rfl
  obtain ⟨bytes, printed, message, readBack⟩ := encode_reads_back understood success
  have payload : message.payload = [0] := by
    have parsed : HexInput.parse "00" = .ok [0] := by rfl
    exact (Except.ok.inj (parsed.symm.trans readBack.payload)).symm
  refine ⟨bytes, message, printed, ?_, payload, ?_⟩
  · rw [readBack.source]
    apply String.toList_inj.mp
    rw [toList_toLower]
    rfl
  · exact readBack.listed readBack.messageType ⟨[]⟩ [0] [] rfl payload

end Program

end RadioMesh
