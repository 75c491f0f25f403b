import RadioMesh.Proofs.Record.Correspondence
import RadioMesh.Proofs.Record.Tolerance
import RadioMesh.Proofs.Stream.Cutting

/-!
# Frames and their bytes

Frames of any kind correspond to the byte strings that fill a header: the declared length is
one byte among others.  The strict policy cuts this correspondence down to the frames that
declare the length of their data, which are those that can be built, and to the whole
envelopes.
-/

namespace RadioMesh

namespace Frame

theorem ofData_eq_ok_iff {opcode : UInt8} {handle : UInt16} {data : Bytes} {frame : Frame} :
    ofData opcode handle data = .ok frame ↔
      data.length ≤ dataLimit ∧ frame = ⟨opcode, handle, UInt8.ofNat data.length, data⟩ := by
  unfold ofData
  split
  · next fits => simp [fits, eq_comm]
  · next large => simp [large]

theorem ofData_of_dataLimit_lt {data : Bytes} (large : dataLimit < data.length)
    (opcode : UInt8) (handle : UInt16) :
    ofData opcode handle data = .error (.payloadTooLarge data.length dataLimit) :=
  if_neg (Nat.not_le_of_lt large)

theorem toNat_ofNat_length {data : Bytes} (fits : data.length ≤ dataLimit) :
    (UInt8.ofNat data.length).toNat = data.length := by
  apply UInt8.toNat_ofNat_of_lt'
  exact Nat.lt_succ_of_le fits

theorem isConsistent_iff {frame : Frame} :
    frame.isConsistent = true ↔ frame.dataLength.toNat = frame.data.length := by
  rw [isConsistent, beq_iff_eq]

theorem length_le_of_isConsistent {frame : Frame} (consistent : frame.isConsistent = true) :
    frame.data.length ≤ dataLimit := by
  rw [← isConsistent_iff.mp consistent]
  exact Nat.le_of_lt_succ frame.dataLength.toNat_lt

theorem isConsistent_of_ofData {opcode : UInt8} {handle : UInt16} {data : Bytes} {frame : Frame}
    (built : ofData opcode handle data = .ok frame) : frame.isConsistent = true := by
  obtain ⟨fits, rfl⟩ := ofData_eq_ok_iff.mp built
  exact isConsistent_iff.mpr (toNat_ofNat_length fits)

/-- A frame that declares the length of its data is built from its parts. -/
theorem ofData_of_isConsistent {frame : Frame} (consistent : frame.isConsistent = true) :
    ofData frame.opcode frame.handle frame.data = .ok frame := by
  have declared : UInt8.ofNat frame.data.length = frame.dataLength := by
    rw [← isConsistent_iff.mp consistent, UInt8.ofNat_toNat]
  apply ofData_eq_ok_iff.mpr
  refine ⟨length_le_of_isConsistent consistent, ?_⟩
  rw [declared]

/-- What is put into a buffer is the encoding. -/
theorem run_put (frame : Frame) (buffer : Bytes) :
    frame.put.run buffer = ((), buffer ++ frame.encode) := by
  have written : frame.put.run buffer =
      ((), buffer ++ [frame.opcode] ++ Word16.toBytes frame.handle ++ [frame.dataLength] ++
        frame.data) := rfl
  rw [written]
  simp [encode, Word16.toBytes]

theorem exists_encode_eq_of_headerSize_le {wire : Bytes} (long : headerSize ≤ wire.length) :
    ∃ frame : Frame, frame.encode = wire := by
  match wire, long with
  | opcode :: low :: high :: dataLength :: data, _ =>
      refine ⟨⟨opcode, Word16.ofBytes low high, dataLength, data⟩, ?_⟩
      simp [encode]

theorem headerSize_le_length_encode (frame : Frame) : headerSize ≤ frame.encode.length := by
  rw [length_encode]
  exact Nat.le_add_right headerSize frame.data.length

theorem result_decode_permissive_encode (frame : Frame) :
    (decode .permissive frame.encode).result = .ok frame := by
  simp [decode, encode, Attempt.result_bind]
  rfl

/-- The strict policy reads a frame back exactly if it declares the length of its data. -/
theorem result_decode_strict_encode (frame : Frame) :
    (decode .strict frame.encode).result =
      if frame.dataLength.toNat = frame.data.length then .ok frame
      else .error (LengthPolicy.mismatch frame.dataLength.toNat frame.data.length) := by
  rw [(verdicts_decode _).exacting_of_ok frame.result_decode_permissive_encode]
  simp [encode, declaredByte]

theorem result_decode_permissive_eq_ok_iff {wire : Bytes} {frame : Frame} :
    (decode .permissive wire).result = .ok frame ↔ frame.encode = wire := by
  constructor
  · intro decoded
    by_cases long : headerSize ≤ wire.length
    · obtain ⟨other, rfl⟩ := exists_encode_eq_of_headerSize_le long
      rw [result_decode_permissive_encode] at decoded
      cases decoded
      rfl
    · rw [decode_of_length_lt (Nat.lt_of_not_le long)] at decoded
      cases decoded
  · rintro rfl
    exact result_decode_permissive_encode frame

theorem result_decode_strict_eq_ok_iff {wire : Bytes} {frame : Frame} :
    (decode .strict wire).result = .ok frame ↔
      frame.isConsistent = true ∧ frame.encode = wire := by
  constructor
  · intro decoded
    have lenient : (decode .permissive wire).result = .ok frame := by
      rcases (verdicts_decode wire).exacting_eq with same | refused
      · rwa [← same]
      · rw [refused] at decoded
        cases decoded
    obtain rfl := result_decode_permissive_eq_ok_iff.mp lenient
    rw [result_decode_strict_encode] at decoded
    split at decoded
    · next declared => exact ⟨isConsistent_iff.mpr declared, rfl⟩
    · cases decoded
  · rintro ⟨consistent, rfl⟩
    rw [decode_encode_of_isConsistent consistent]

/-- The bytes of a frame with the fourth one set to count what follows it. -/
def redeclared (wire : Bytes) : Bytes := wire.set 3 (UInt8.ofNat (wire.length - headerSize))

theorem redeclared_encode (frame : Frame) :
    redeclared frame.encode =
      encode { frame with dataLength := UInt8.ofNat frame.data.length } := by
  rw [redeclared, length_encode, wireSize, Nat.add_sub_cancel_left]
  rfl

theorem corresponds_permissive :
    Corresponds (fun wire => (decode .permissive wire).result) encode Set.univ
      {wire | 4 ≤ wire.length} := by
  apply corresponds_of_eq_ok_iff
  · intro wire frame
    rw [result_decode_permissive_eq_ok_iff, and_iff_right (Set.mem_univ frame)]
  · intro wire
    constructor
    · intro long
      obtain ⟨frame, same⟩ := exists_encode_eq_of_headerSize_le long
      exact ⟨frame, Set.mem_univ frame, same⟩
    · rintro ⟨frame, _, rfl⟩
      exact headerSize_le_length_encode frame

theorem corresponds_strict :
    Corresponds (fun wire => (decode .strict wire).result) encode
      {frame | frame.isConsistent = true} {wire | Envelope.IsWhole wire} := by
  apply corresponds_of_eq_ok_iff
  · intro wire frame
    exact result_decode_strict_eq_ok_iff
  · intro wire
    constructor
    · intro whole
      exact exists_encode_eq_of_isWhole whole
    · rintro ⟨frame, consistent, rfl⟩
      exact isWhole_encode_iff.mpr consistent

/-- Frames correspond to the byte strings of at least four bytes, and under the strict policy
those that declare the length of their data to the byte strings whose fourth byte counts what
follows it.  A frame of that kind can be built from any data of at most 255 bytes, and every
frame of that kind is built so. -/
theorem frames_correspond :
    Corresponds (fun wire => (decode .permissive wire).result) encode Set.univ
        {wire | 4 ≤ wire.length} ∧
      Corresponds (fun wire => (decode .strict wire).result) encode
        {frame | frame.isConsistent = true} {wire | Envelope.IsWhole wire} ∧
      (∀ frame : Frame, frame.encode.length = frame.wireSize ∧
        ∀ buffer, frame.put.run buffer = ((), buffer ++ frame.encode)) ∧
      (∀ frame : Frame, frame.isConsistent = true ↔
        ∃ opcode handle data, ofData opcode handle data = .ok frame) ∧
      ∀ opcode handle data,
        if data.length ≤ 255 then
          ∃ frame, ofData opcode handle data = .ok frame ∧
            frame.opcode = opcode ∧ frame.handle = handle ∧ frame.data = data
        else ofData opcode handle data = .error (.payloadTooLarge data.length 255) := by
  refine ⟨corresponds_permissive, corresponds_strict, ?_, ?_, ?_⟩
  · intro frame
    exact ⟨frame.length_encode, frame.run_put⟩
  · intro frame
    constructor
    · intro consistent
      exact ⟨_, _, _, ofData_of_isConsistent consistent⟩
    · rintro ⟨opcode, handle, data, built⟩
      exact isConsistent_of_ofData built
  · intro opcode handle data
    split
    · next fits => exact ⟨_, ofData_eq_ok_iff.mpr ⟨fits, rfl⟩, rfl, rfl, rfl⟩
    · next large => exact ofData_of_dataLimit_lt (Nat.lt_of_not_le large) opcode handle

end Frame

end RadioMesh
