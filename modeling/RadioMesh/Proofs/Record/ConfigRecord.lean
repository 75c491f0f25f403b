import RadioMesh.Record.ConfigRecord

/-!
# Reading configuration records

A configuration record has a layout for each value of the reserved byte, and it is read from
the byte strings that start with one of them.  So a record that was encoded is read back,
whatever follows it.  Its value is the number that its payload spells with the lowest byte
first.
-/

namespace RadioMesh

namespace ConfigRecord

theorem ofPayload_eq_ok_iff {kind : UInt8} {payload : Bytes} {record : ConfigRecord} :
    ofPayload kind payload = .ok record ↔ payload.length ≤ payloadLimit ∧
      record = ⟨kind, UInt16.ofNat payload.length, payload⟩ := by
  unfold ofPayload
  split
  · next fits => simp [fits, eq_comm]
  · next large => simp [large]

theorem encode_eq_ok_iff {record : ConfigRecord} {wire : Bytes} :
    record.encode = .ok wire ↔ record.length.toNat = record.payload.length ∧
      wire = record.kind :: reservedByte :: Word16.low record.length ::
        Word16.high record.length :: record.payload := by
  unfold encode
  split
  · next consistent => simp [consistent, eq_comm, Word16.toBytes]
  · next inconsistent => simp [inconsistent]

/-- The bytes of a record with any reserved byte. -/
def layout (record : ConfigRecord) (reserved : UInt8) : Bytes :=
  record.kind :: reserved :: Word16.toBytes record.length ++ record.payload

theorem length_layout (record : ConfigRecord) (reserved : UInt8) :
    (record.layout reserved).length = record.wireSize := by
  simp only [layout, List.length_append, List.length_cons, Word16.length_toBytes, wireSize,
    headerSize]

theorem take_layout_append {record : ConfigRecord}
    (consistent : record.length.toNat = record.payload.length) (reserved : UInt8)
    (trailing : Bytes) :
    (record.layout reserved ++ trailing).take (headerSize + record.length.toNat) =
      record.layout reserved := by
  have size : (record.layout reserved).length = headerSize + record.length.toNat := by
    rw [length_layout, wireSize, consistent]
  rw [← size, List.take_left]

theorem toNat_length_of_ofPayload_eq_ok {kind : UInt8} {payload : Bytes} {record : ConfigRecord}
    (built : ofPayload kind payload = .ok record) : record.length.toNat = payload.length := by
  obtain ⟨fits, rfl⟩ := ofPayload_eq_ok_iff.mp built
  apply UInt16.toNat_ofNat_of_lt'
  exact Nat.lt_succ_of_le fits

theorem encode_of_consistent {record : ConfigRecord}
    (consistent : record.length.toNat = record.payload.length) :
    record.encode = .ok (record.layout reservedByte) :=
  encode_eq_ok_iff.mpr ⟨consistent, rfl⟩

theorem encode_of_inconsistent {record : ConfigRecord}
    (inconsistent : record.length.toNat ≠ record.payload.length) :
    record.encode = .error (.invalidLength record.payload.length record.length.toNat) :=
  if_neg inconsistent

/-- A record ends where its declared length says, whatever follows it. -/
theorem result_decode_layout_append {record : ConfigRecord}
    (consistent : record.length.toNat = record.payload.length) (reserved : UInt8)
    (trailing : Bytes) :
    (decode (record.layout reserved ++ trailing)).result = .ok record := by
  simp [decode, layout, Word16.toBytes, consistent]

/-- The byte strings that are read as a record are those that start with one of its
layouts. -/
theorem result_decode_eq_ok_iff {wire : Bytes} {record : ConfigRecord} :
    (decode wire).result = .ok record ↔
      record.length.toNat = record.payload.length ∧
        ∃ reserved trailing, wire = record.layout reserved ++ trailing := by
  constructor
  · intro decoded
    unfold decode at decoded
    split at decoded
    · next kind reserved low high rest =>
        dsimp only at decoded
        split at decoded
        · next enough =>
            cases decoded
            refine ⟨?_, reserved, rest.drop (Word16.ofBytes low high).toNat, ?_⟩
            · rw [List.length_take_of_le enough]
            · simp [layout, Word16.toBytes]
        · cases decoded
    · cases decoded
  · rintro ⟨consistent, reserved, trailing, rfl⟩
    exact result_decode_layout_append consistent reserved trailing

theorem result_decode_append_of_encode_eq_ok {record : ConfigRecord} {wire : Bytes}
    (encoded : record.encode = .ok wire) (trailing : Bytes) :
    (decode (wire ++ trailing)).result = .ok record := by
  obtain ⟨consistent, rfl⟩ := encode_eq_ok_iff.mp encoded
  exact result_decode_layout_append consistent reservedByte trailing

/-- A payload of one, two or four bytes is a number, and no other is. -/
theorem value?_eq (record : ConfigRecord) :
    record.value? =
      if record.payload.length = 1 ∨ record.payload.length = 2 ∨ record.payload.length = 4 then
        some (Bytes.number record.payload)
      else none := by
  unfold value?
  split
  · next only content => simp [content, Bytes.number]
  · next first second content => simp [content, Bytes.number]
  · next first second third fourth content => simp [content, Bytes.number]
  · next single pair quadruple =>
      rw [if_neg]
      rintro (one | two | four)
      · match content : record.payload, one with
        | [only], _ => exact single only content
      · match content : record.payload, two with
        | [first, second], _ => exact pair first second content
      · match content : record.payload, four with
        | [first, second, third, fourth], _ =>
            exact quadruple first second third fourth content

end ConfigRecord

end RadioMesh
