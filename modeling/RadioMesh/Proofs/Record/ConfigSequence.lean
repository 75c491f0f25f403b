import RadioMesh.Proofs.Record.ConfigRecord

/-!
# Configuration records in a row

Writing a configuration record into a buffer adds its encoding, or nothing at all.  Since a
record says where it ends, the records that were written one behind the other are read back
by going from each of them to the next.
-/

namespace RadioMesh

namespace ConfigRecord

theorem run_put_of_consistent {record : ConfigRecord}
    (consistent : record.length.toNat = record.payload.length) (buffer : Bytes) :
    record.put.run.run buffer = (.ok (), buffer ++ record.layout reservedByte) := by
  have written : record.put.run.run buffer =
      (.ok (), buffer ++ [record.kind] ++ [reservedByte] ++ Word16.toBytes record.length ++
        record.payload) := by
    rw [put, if_neg (not_not_intro consistent)]
    rfl
  rw [written]
  simp [layout]

/-- The check comes before the first byte, so a refused record leaves the buffer alone. -/
theorem run_put_of_inconsistent {record : ConfigRecord}
    (inconsistent : record.length.toNat ≠ record.payload.length) (buffer : Bytes) :
    record.put.run.run buffer =
      (.error (.invalidLength record.payload.length record.length.toNat), buffer) := by
  rw [put, if_pos inconsistent]
  rfl

/-- The encodings of some records, one behind the other. -/
def sequence (records : List ConfigRecord) : Bytes :=
  records.flatMap fun record => record.layout reservedByte

theorem sequence_cons (record : ConfigRecord) (records : List ConfigRecord) :
    sequence (record :: records) = record.layout reservedByte ++ sequence records := rfl

theorem run_forM_put {records : List ConfigRecord}
    (consistent : ∀ record ∈ records, record.length.toNat = record.payload.length)
    (buffer : Bytes) :
    (records.forM put).run.run buffer = (.ok (), buffer ++ sequence records) := by
  induction records generalizing buffer with
  | nil =>
      have empty : buffer ++ sequence [] = buffer := List.append_nil buffer
      rw [empty]
      rfl
  | cons record records ih =>
      have first := run_put_of_consistent (consistent record List.mem_cons_self) buffer
      have others := ih (fun other member => consistent other (List.mem_cons_of_mem record member))
        (buffer ++ record.layout reservedByte)
      rw [sequence_cons, ← List.append_assoc, ← others]
      exact Buffer.run_bind_of_eq_ok first

/-- Reads records from a position on, each of them where the one before it ends, and gives
the position at which nothing is left. -/
def readFrom (wire : Bytes) (position : Nat) : Except WireError (List ConfigRecord × Nat) :=
  if position < wire.length then do
    let record ← (decode (wire.drop position)).result
    let (others, stop) ← readFrom wire (position + record.wireSize)
    pure (record :: others, stop)
  else pure ([], position)
termination_by wire.length - position
decreasing_by
  rw [wireSize, headerSize]
  omega

theorem readFrom_length (wire : Bytes) : readFrom wire wire.length = .ok ([], wire.length) := by
  rw [readFrom, if_neg (Nat.lt_irrefl _)]
  rfl

/-- Reading goes on behind the record that is there. -/
theorem readFrom_of_decoded {wire : Bytes} {position stop : Nat} {record : ConfigRecord}
    {others : List ConfigRecord} (inside : position < wire.length)
    (decoded : (decode (wire.drop position)).result = .ok record)
    (further : readFrom wire (position + record.wireSize) = .ok (others, stop)) :
    readFrom wire position = .ok (record :: others, stop) := by
  rw [readFrom, if_pos inside, decoded]
  change (readFrom wire (position + record.wireSize) >>= fun (others, stop) =>
    pure (record :: others, stop)) = _
  rw [further]
  rfl

theorem readFrom_sequence {records : List ConfigRecord}
    (consistent : ∀ record ∈ records, record.length.toNat = record.payload.length)
    (front : Bytes) :
    readFrom (front ++ sequence records) front.length =
      .ok (records, (front ++ sequence records).length) := by
  -- A record that was read joins the front, so the induction is over any front.
  induction records generalizing front with
  | nil =>
      have empty : front ++ sequence [] = front := List.append_nil front
      rw [empty]
      exact readFrom_length front
  | cons record records ih =>
      have first := consistent record List.mem_cons_self
      have others := ih (fun other member => consistent other (List.mem_cons_of_mem record member))
        (front ++ record.layout reservedByte)
      rw [List.append_assoc, ← sequence_cons, List.length_append, length_layout] at others
      apply readFrom_of_decoded _ _ others
      · rw [sequence_cons, List.length_append, List.length_append, length_layout, wireSize,
          headerSize]
        omega
      · rw [List.drop_left, sequence_cons]
        exact result_decode_layout_append first reservedByte _

/-- A record that was read is encoded as the bytes from which it was read, with the reserved
byte cleared. -/
theorem encode_of_result_decode_eq_ok {wire : Bytes} {record : ConfigRecord}
    (decoded : (decode wire).result = .ok record) :
    record.encode =
      .ok ((wire.take (headerSize + record.length.toNat)).set 1 reservedByte) := by
  obtain ⟨consistent, reserved, trailing, rfl⟩ := result_decode_eq_ok_iff.mp decoded
  rw [take_layout_append consistent]
  exact encode_of_consistent consistent

theorem size_le_of_result_decode_eq_ok {wire : Bytes} {record : ConfigRecord}
    (decoded : (decode wire).result = .ok record) :
    headerSize + record.length.toNat ≤ wire.length := by
  obtain ⟨consistent, reserved, trailing, rfl⟩ := result_decode_eq_ok_iff.mp decoded
  rw [List.length_append, length_layout, wireSize, consistent]
  exact Nat.le_add_right _ trailing.length

/-- Bytes behind the declared length make no difference. -/
theorem result_decode_take_append {wire : Bytes} {record : ConfigRecord}
    (decoded : (decode wire).result = .ok record) (other : Bytes) :
    (decode (wire.take (headerSize + record.length.toNat) ++ other)).result = .ok record := by
  obtain ⟨consistent, reserved, trailing, rfl⟩ := result_decode_eq_ok_iff.mp decoded
  rw [take_layout_append consistent]
  exact result_decode_layout_append consistent reserved other

/-- Configuration records delimit themselves.  A record that declares the length of its
payload is added to any buffer as its encoding and read back in front of any bytes; another
one is refused and leaves the buffer as it was.  Records that were written into one buffer are
read back, in order and up to its end.  And a record that was read is encoded as the bytes that
it takes, with the reserved byte cleared; what follows these bytes does not matter. -/
theorem records_delimit_themselves :
    (∀ record : ConfigRecord,
      if record.length.toNat = record.payload.length then
        ∃ wire, record.encode = .ok wire ∧
          (∀ buffer, record.put.run.run buffer = (.ok (), buffer ++ wire)) ∧
          ∀ trailing, (decode (wire ++ trailing)).result = .ok record
      else
        record.encode = .error (.invalidLength record.payload.length record.length.toNat) ∧
          ∀ buffer, record.put.run.run buffer =
            (.error (.invalidLength record.payload.length record.length.toNat), buffer)) ∧
    (∀ (records : List ConfigRecord) (buffer : Bytes),
      (∀ record ∈ records, record.length.toNat = record.payload.length) →
      ∃ written, (records.forM put).run.run buffer = (.ok (), written) ∧
        readFrom written buffer.length = .ok (records, written.length)) ∧
    (∀ wire record, (decode wire).result = .ok record →
      4 + record.length.toNat ≤ wire.length ∧
      record.encode = .ok ((wire.take (4 + record.length.toNat)).set 1 0) ∧
      (decode ((wire.take (4 + record.length.toNat)).set 1 0)).result = .ok record ∧
      ∀ other, (decode (wire.take (4 + record.length.toNat) ++ other)).result = .ok record) := by
  refine ⟨?_, ?_, ?_⟩
  · intro record
    split
    · next consistent =>
        refine ⟨_, encode_of_consistent consistent, run_put_of_consistent consistent, ?_⟩
        exact result_decode_layout_append consistent reservedByte
    · next inconsistent =>
        exact ⟨encode_of_inconsistent inconsistent, run_put_of_inconsistent inconsistent⟩
  · intro records buffer consistent
    exact ⟨_, run_forM_put consistent buffer, readFrom_sequence consistent buffer⟩
  · intro wire record decoded
    have encoded := encode_of_result_decode_eq_ok decoded
    have reread := result_decode_append_of_encode_eq_ok encoded []
    rw [List.append_nil] at reread
    exact ⟨size_le_of_result_decode_eq_ok decoded, encoded, reread,
      result_decode_take_append decoded⟩

/-- Two records behind a byte that was there before, a record that declares too much, and one
whose reserved byte is not clear and which bytes follow. -/
theorem records_delimit_themselves_of_two_records :
    let first : ConfigRecord := ⟨0, 3, [1, 2, 3]⟩
    let second : ConfigRecord := ⟨7, 0, []⟩
    let wire : Bytes := [2, 0x7F, 1, 0, 9, 8]
    (∀ record ∈ [first, second], record.length.toNat = record.payload.length) ∧
      (∃ written, ([first, second].forM put).run.run [5] = (.ok (), written) ∧
        readFrom written 1 = .ok ([first, second], written.length)) ∧
      (put ⟨1, 3, [1]⟩).run.run [5] = (.error (.invalidLength 1 3), [5]) ∧
      (decode wire).result = .ok ⟨2, 1, [9]⟩ ∧
      encode ⟨2, 1, [9]⟩ = .ok [2, 0, 1, 0, 9] := by
  intro first second wire
  have consistent : ∀ record ∈ [first, second], record.length.toNat = record.payload.length := by
    decide
  have decoded : (decode wire).result = .ok ⟨2, 1, [9]⟩ := rfl
  obtain ⟨written, appended, reencoded⟩ := records_delimit_themselves
  exact ⟨consistent, appended [first, second] [5] consistent, (written ⟨1, 3, [1]⟩).2 [5],
    decoded, (reencoded wire _ decoded).2.1⟩

end ConfigRecord

end RadioMesh
