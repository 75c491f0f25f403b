import RadioMesh.Proofs.Directory
import RadioMesh.Proofs.Program.ExitCodes
import RadioMesh.Proofs.Record.Frame

/-!
# What a capture takes

A request to encode has a frame for a capture if its texts give bytes and an address, the data is
not too long, and the length that is to be declared, if there is one, is that of the data.  The
capture takes the frame if its path leads to a file or to a place where one can be.
-/

namespace RadioMesh

open Text

namespace Directory

/-- A path leads to a file, or to a place where one can be. -/
inductive Admits (directory : Directory) (path : String) : Prop where
  | file {place : Place} {content : Bytes} :
      directory.locate path = .ok (.file place content) →
      Admits directory path
  | free {place : Place} :
      directory.locate path = .ok (.free place) →
      Admits directory path

theorem admits_iff {directory : Directory} {path : String} :
    directory.Admits path ↔ ∃ target, directory.openForAppending path = .ok target := by
  unfold openForAppending
  constructor
  · intro admits
    cases admits with
    | file found => exact ⟨_, by rw [found]⟩
    | free found => exact ⟨_, by rw [found]⟩
  · rintro ⟨target, opened⟩
    split at opened
    · next found => exact .file found
    · next found => exact .free found
    all_goals cases opened

end Directory

/-- The frame that a request has for a capture, if it has one. -/
inductive EncodeRequest.Gives : EncodeRequest → Frame → Prop where
  | frame {fields : FrameFields} {data : Bytes} :
      HexInput.Gives fields.data data →
      data.length ≤ 255 →
      (∀ declared ∈ fields.dataLength, declared.toNat = data.length) →
      Gives (.frame fields) ⟨fields.opcode, fields.handle, UInt8.ofNat data.length, data⟩
  | hub {fields : HubFields} {source : Address} {payload : Bytes} :
      source.IsSpelledBy fields.source.toList →
      HexInput.Gives fields.payload payload →
      payload.length ≤ 247 →
      Gives (.hub fields) ⟨fields.opcode, fields.handle, UInt8.ofNat (8 + payload.length),
        source.encode ++ Word16.toBytes fields.messageType ++ payload⟩

namespace Conversion

theorem gives_frame_iff {fields : FrameFields} {frame : Frame} :
    (EncodeRequest.frame fields).Gives frame ↔
      frameOf fields = .ok frame ∧ frame.isConsistent = true := by
  constructor
  · intro gives
    cases gives with
    | @frame _ data given fits length =>
        refine ⟨?_, Frame.isConsistent_iff.mpr (Frame.toNat_ofNat_length fits)⟩
        rw [frameOf_eq, ((reads_bytesOf fields.data).given data).mpr given]
        change ((Frame.ofData _ _ data).map fields.declare).mapError _ = _
        rw [Frame.ofData_eq_ok_iff.mpr ⟨fits, rfl⟩]
        cases chosen : fields.dataLength with
        | none => simp [Except.map, Except.mapError, FrameFields.declare, chosen]
        | some dataLength =>
            have same : dataLength = UInt8.ofNat data.length := by
              rw [← length dataLength chosen, UInt8.ofNat_toNat]
            simp [Except.map, Except.mapError, FrameFields.declare, chosen, same]
  · rintro ⟨built, consistent⟩
    obtain ⟨data, parsed, built⟩ := exists_of_bind_eq_ok built
    obtain ⟨first, sized, declared⟩ := exists_of_bind_eq_ok built
    obtain ⟨fits, rfl⟩ := Frame.ofData_eq_ok_iff.mp (eq_ok_of_mapError_eq_ok sized)
    have given := ((reads_bytesOf fields.data).given data).mp parsed
    cases chosen : fields.dataLength with
    | none =>
        rw [chosen] at declared
        cases declared
        exact .frame given fits (by simp [chosen])
    | some dataLength =>
        rw [chosen] at declared
        cases declared
        have length : dataLength.toNat = data.length := Frame.isConsistent_iff.mp consistent
        have same : dataLength = UInt8.ofNat data.length := by
          rw [← length, UInt8.ofNat_toNat]
        rw [same]
        exact .frame given fits (by simp [chosen, length])

theorem length_hubData (source : Address) (messageType : UInt16) (payload : Bytes) :
    (source.encode ++ Word16.toBytes messageType ++ payload).length = 8 + payload.length :=
  HubMessage.length_data ⟨0, 0, source, messageType, payload⟩

theorem gives_hub_iff {fields : HubFields} {frame : Frame} :
    (EncodeRequest.hub fields).Gives frame ↔
      hubFrameOf fields = .ok frame ∧ frame.isConsistent = true := by
  constructor
  · intro gives
    cases gives with
    | @hub _ source payload spelled given short =>
        have addressed := ((reads_addressOf fields.source).given source).mpr spelled
        have parsed := ((reads_bytesOf fields.payload).given payload).mpr given
        have fits : (source.encode ++ Word16.toBytes fields.messageType ++ payload).length ≤
            Frame.dataLimit := by
          rw [length_hubData, Frame.dataLimit]
          omega
        have built := (@Frame.ofData_eq_ok_iff fields.opcode fields.handle _ _).mpr ⟨fits, rfl⟩
        have consistent := Frame.isConsistent_of_ofData built
        rw [length_hubData] at built consistent
        refine ⟨?_, consistent⟩
        simp only [hubFrameOf, addressed, parsed, bind, Except.bind, HubMessage.toFrame, built]
        rfl
  · rintro ⟨built, _⟩
    obtain ⟨source, addressed, built⟩ := exists_of_bind_eq_ok built
    obtain ⟨payload, parsed, built⟩ := exists_of_bind_eq_ok built
    have framed : Frame.ofData fields.opcode fields.handle
        (source.encode ++ Word16.toBytes fields.messageType ++ payload) = .ok frame :=
      eq_ok_of_mapError_eq_ok built
    obtain ⟨fits, rfl⟩ := Frame.ofData_eq_ok_iff.mp framed
    rw [length_hubData] at fits ⊢
    have short : payload.length ≤ 247 := by
      change 8 + payload.length ≤ 255 at fits
      omega
    exact .hub (((reads_addressOf fields.source).given source).mp addressed)
      (((reads_bytesOf fields.payload).given payload).mp parsed) short

end Conversion

/-- A request has at most one frame for a capture. -/
theorem EncodeRequest.Gives.unique {request : EncodeRequest} {frame other : Frame}
    (gives : request.Gives frame) (others : request.Gives other) : frame = other := by
  cases request with
  | frame fields =>
      have built := (Conversion.gives_frame_iff.mp gives).1
      exact Except.ok.inj (built.symm.trans (Conversion.gives_frame_iff.mp others).1)
  | hub fields =>
      have built := (Conversion.gives_hub_iff.mp gives).1
      exact Except.ok.inj (built.symm.trans (Conversion.gives_hub_iff.mp others).1)
  | _ => cases gives

end RadioMesh
