import RadioMesh.Proofs.Record.Tolerance

/-!
# Reading and writing mesh commands

A mesh command that was encoded is read back under either policy.  The permissive policy reads
a command from all of its layouts, which differ in the reserved byte and in the declared
length, and the strict policy from those that declare their length.  So a command that was read
is written back as the bytes from which it was read, with these two fields put in order.
-/

namespace RadioMesh

namespace MeshCommand

theorem encode_eq_ok_iff {command : MeshCommand} {wire : Bytes} :
    command.encode = .ok wire ↔ command.payload.length ≤ payloadLimit ∧
      wire = command.channel :: reservedByte ::
        Word16.toBytes (UInt16.ofNat (countedHeader + command.payload.length)) ++
        command.target.encode ++ Word16.toBytes command.messageType ++ command.payload := by
  unfold encode
  split
  · next fits => simp [fits, eq_comm]
  · next large => simp [large]

theorem result_decode_of_encode_eq_ok {command : MeshCommand} {wire : Bytes}
    (encoded : command.encode = .ok wire) (policy : LengthPolicy) :
    (decode policy wire).result = .ok command := by
  obtain ⟨fits, rfl⟩ := encode_eq_ok_iff.mp encoded
  have small : countedHeader + command.payload.length < 65536 := by
    rw [payloadLimit, countedHeader] at fits
    rw [countedHeader]
    omega
  simp [decode, Word16.toBytes, Address.encode, LengthPolicy.check, small]

theorem encode_of_payloadLimit_lt {command : MeshCommand}
    (large : payloadLimit < command.payload.length) :
    command.encode = .error (.payloadTooLarge command.payload.length payloadLimit) :=
  if_neg (Nat.not_le_of_lt large)

/-- The reserved byte makes no difference. -/
theorem decode_set_reserved (policy : LengthPolicy) (wire : Bytes) (reserved : UInt8) :
    decode policy (wire.set 1 reserved) = decode policy wire := by
  by_cases short : wire.length < headerSize
  · have same : (wire.set 1 reserved).length = wire.length := List.length_set
    rw [decode_of_length_lt short, decode_of_length_lt (same ▸ short), same]
  · match wire, Nat.le_of_not_lt short with
    | channel :: _ :: lengthLow :: lengthHigh ::
        sixth :: fifth :: fourth :: third :: second :: first ::
        typeLow :: typeHigh :: payload, _ => rfl

/-- The bytes of a command with any reserved byte and any declared length. -/
def layout (command : MeshCommand) (reserved : UInt8) (declared : UInt16) : Bytes :=
  command.channel :: reserved :: Word16.toBytes declared ++ command.target.encode ++
    Word16.toBytes command.messageType ++ command.payload

theorem length_layout (command : MeshCommand) (reserved : UInt8) (declared : UInt16) :
    (command.layout reserved declared).length = headerSize + command.payload.length := by
  simp only [layout, List.length_append, List.length_cons, Word16.length_toBytes,
    Address.length_encode, Address.size, headerSize]

theorem result_decode_layout (command : MeshCommand) (reserved : UInt8) (declared : UInt16) :
    (decode .permissive (command.layout reserved declared)).result = .ok command := by
  simp [decode, layout, Word16.toBytes, Address.encode, Attempt.result_bind]
  rfl

theorem exists_layout_of_headerSize_le {wire : Bytes} (long : headerSize ≤ wire.length) :
    ∃ command reserved declared, wire = layout command reserved declared := by
  match wire, long with
  | channel :: reserved :: lengthLow :: lengthHigh ::
      sixth :: fifth :: fourth :: third :: second :: first ::
      typeLow :: typeHigh :: payload, _ =>
    refine ⟨⟨channel, ⟨first, second, third, fourth, fifth, sixth⟩,
      Word16.ofBytes typeLow typeHigh, payload⟩, reserved, Word16.ofBytes lengthLow lengthHigh, ?_⟩
    simp [layout, Word16.toBytes, Address.encode]

/-- The permissive policy reads a command from its layouts, and from no other bytes. -/
theorem result_decode_permissive_eq_ok_iff {wire : Bytes} {command : MeshCommand} :
    (decode .permissive wire).result = .ok command ↔
      ∃ reserved declared, wire = command.layout reserved declared := by
  constructor
  · intro decoded
    by_cases short : wire.length < headerSize
    · rw [decode_of_length_lt short] at decoded
      cases decoded
    · obtain ⟨other, reserved, declared, rfl⟩ :=
        exists_layout_of_headerSize_le (Nat.le_of_not_lt short)
      rw [result_decode_layout] at decoded
      cases decoded
      exact ⟨reserved, declared, rfl⟩
  · rintro ⟨reserved, declared, rfl⟩
    exact result_decode_layout command reserved declared

/-- The strict policy accepts the bytes that fill the header and declare what follows the
declaration. -/
theorem exists_result_decode_strict_iff {wire : Bytes} :
    (∃ command, (decode .strict wire).result = .ok command) ↔
      headerSize ≤ wire.length ∧ (declaredWord wire).toNat = wire.length - 4 := by
  by_cases long : headerSize ≤ wire.length
  · obtain ⟨command, reserved, declared, same⟩ := exists_layout_of_headerSize_le long
    have decoded := result_decode_permissive_eq_ok_iff.mpr ⟨reserved, declared, same⟩
    rw [(verdicts_decode wire).exacting_of_ok decoded]
    split
    · next declares => simp [long, declares]
    · next differs => simp [differs]
  · rw [decode_of_length_lt (Nat.lt_of_not_le long)]
    simp [long]

/-- The bytes of a command with the reserved byte cleared, and the third and fourth byte set to
count what follows them. -/
def redeclared (wire : Bytes) : Bytes :=
  let size := UInt16.ofNat (wire.length - 4)
  ((wire.set 1 reservedByte).set 2 (Word16.low size)).set 3 (Word16.high size)

theorem redeclared_layout (command : MeshCommand) (reserved : UInt8) (declared : UInt16) :
    redeclared (command.layout reserved declared) =
      command.layout reservedByte (UInt16.ofNat (countedHeader + command.payload.length)) := by
  have size : headerSize + command.payload.length - 4 =
      countedHeader + command.payload.length := by
    rw [headerSize, countedHeader]
    omega
  rw [redeclared, length_layout, size]
  rfl

theorem length_of_result_decode_eq_ok {wire : Bytes} {command : MeshCommand}
    (decoded : (decode .permissive wire).result = .ok command) :
    wire.length = headerSize + command.payload.length := by
  obtain ⟨reserved, declared, rfl⟩ := result_decode_permissive_eq_ok_iff.mp decoded
  exact command.length_layout reserved declared

/-- A command that was read is written as the bytes from which it was read, with the reserved
byte cleared and their length declared. -/
theorem encode_of_result_decode_eq_ok {wire : Bytes} {command : MeshCommand}
    (decoded : (decode .permissive wire).result = .ok command)
    (fits : command.payload.length ≤ payloadLimit) : command.encode = .ok (redeclared wire) := by
  obtain ⟨reserved, declared, rfl⟩ := result_decode_permissive_eq_ok_iff.mp decoded
  rw [redeclared_layout]
  exact encode_eq_ok_iff.mpr ⟨fits, rfl⟩

/-- Commands and their bytes correspond.  A command with at most 65527 bytes of payload is
written and read back under either policy.  The strict policy accepts the bytes that declare
their length, whatever their reserved byte.  And a command that was read is written if the
bytes were at most 65539, and then as these bytes with the reserved byte cleared and their
length declared, from which it is read again. -/
theorem commands_round_trip :
    (∀ command : MeshCommand,
      if command.payload.length ≤ 65527 then
        ∃ wire, command.encode = .ok wire ∧
          ∀ policy, (decode policy wire).result = .ok command
      else command.encode = .error (.payloadTooLarge command.payload.length 65527)) ∧
    (∀ wire,
      ((∃ command, (decode .strict wire).result = .ok command) ↔
        12 ≤ wire.length ∧ (declaredWord wire).toNat = wire.length - 4) ∧
      ∀ policy reserved, decode policy (wire.set 1 reserved) = decode policy wire) ∧
    (∀ wire command, (decode .permissive wire).result = .ok command →
      if wire.length ≤ 65539 then
        command.encode = .ok (redeclared wire) ∧
          ∀ policy, (decode policy (redeclared wire)).result = .ok command
      else command.encode = .error (.payloadTooLarge (wire.length - 12) 65527)) := by
  refine ⟨?_, ?_, ?_⟩
  · intro command
    split
    · next fits =>
        have encoded := encode_eq_ok_iff.mpr ⟨fits, rfl⟩
        exact ⟨_, encoded, result_decode_of_encode_eq_ok encoded⟩
    · next large => exact encode_of_payloadLimit_lt (Nat.lt_of_not_le large)
  · intro wire
    refine ⟨exists_result_decode_strict_iff, ?_⟩
    intro policy reserved
    exact decode_set_reserved policy wire reserved
  · intro wire command decoded
    have size := length_of_result_decode_eq_ok decoded
    rw [headerSize] at size
    split
    · next small =>
        have encoded := encode_of_result_decode_eq_ok decoded
          (by rw [payloadLimit, countedHeader]; omega)
        exact ⟨encoded, result_decode_of_encode_eq_ok encoded⟩
    · next large =>
        rw [size, Nat.add_sub_cancel_left]
        apply encode_of_payloadLimit_lt
        rw [payloadLimit, countedHeader]
        omega

/-- A command whose reserved byte is not clear and which declares two bytes too many. -/
theorem commands_round_trip_of_misdeclared_command :
    let wire : Bytes := [2, 0xEE, 11, 0, 6, 5, 4, 3, 2, 1, 1, 0, 100]
    let command : MeshCommand := ⟨2, ⟨1, 2, 3, 4, 5, 6⟩, 1, [100]⟩
    (decode .permissive wire).result = .ok command ∧
      command.encode = .ok [2, 0, 9, 0, 6, 5, 4, 3, 2, 1, 1, 0, 100] ∧
      (decode .strict [2, 0, 9, 0, 6, 5, 4, 3, 2, 1, 1, 0, 100]).result = .ok command := by
  intro wire command
  have decoded : (decode .permissive wire).result = .ok command := rfl
  have written : redeclared wire = [2, 0, 9, 0, 6, 5, 4, 3, 2, 1, 1, 0, 100] := by decide
  obtain ⟨encoded, reread⟩ := commands_round_trip.2.2 wire command decoded
  rw [written] at encoded reread
  exact ⟨decoded, encoded, reread .strict⟩

end MeshCommand

end RadioMesh
