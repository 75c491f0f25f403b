import RadioMesh.Proofs.Record.Positions

/-!
# Asking for more bytes

A decoder that is given too few bytes says how many it needs.  With fewer than that it asks
for as many again, and with that many it does not.  Only a record that declares its own size
asks twice, for its header and then for the whole of it, and with the whole it is read.
-/

namespace RadioMesh

/-- What a decoder asks for when the bytes are too few is what it goes by. -/
structure AsksHonestly {α : Type} (decode : Bytes → Except WireError α) (header : Nat) :
    Prop where
  /-- Bytes that do not fill the header are too few. -/
  refused : ∀ wire, wire.length < header →
    decode wire = .error (.tooShort header wire.length)
  /-- More is asked for than what is there. -/
  sized : ∀ wire needed actual, decode wire = .error (.tooShort needed actual) →
    actual = wire.length ∧ wire.length < needed
  /-- As long as bytes are missing, as many are asked for. -/
  kept : ∀ wire more needed actual, decode wire = .error (.tooShort needed actual) →
    (wire ++ more).length < needed →
    decode (wire ++ more) = .error (.tooShort needed (wire ++ more).length)

/-- A decoder that asks for no more when it has got what it asked for. -/
structure AsksOnce {α : Type} (decode : Bytes → Except WireError α) (header : Nat) : Prop
    extends AsksHonestly decode header where
  satisfied : ∀ wire more needed actual, decode wire = .error (.tooShort needed actual) →
    needed ≤ (wire ++ more).length →
    ∀ larger size, decode (wire ++ more) ≠ .error (.tooShort larger size)

/-- A decoder that may ask for more when it has got what it asked for, but not a third
time. -/
structure AsksTwice {α : Type} (decode : Bytes → Except WireError α) (header : Nat) : Prop
    extends AsksHonestly decode header where
  raised : ∀ wire more needed actual larger size,
    decode wire = .error (.tooShort needed actual) →
    needed ≤ (wire ++ more).length →
    decode (wire ++ more) = .error (.tooShort larger size) →
    needed < larger ∧
      ∀ rest, larger ≤ (wire ++ more ++ rest).length →
        ∃ value, decode (wire ++ more ++ rest) = .ok value
  repeated : ∃ wire more needed actual larger size,
    decode wire = .error (.tooShort needed actual) ∧
      needed ≤ (wire ++ more).length ∧
      decode (wire ++ more) = .error (.tooShort larger size)

/-- A decoder of records with a header, from which `whole` takes the size of the record. -/
structure Measures {α : Type} (decode : Bytes → Except WireError α) (header : Nat)
    (whole : Bytes → Nat) : Prop where
  short : ∀ wire, wire.length < header →
    decode wire = .error (.tooShort header wire.length)
  lacking : ∀ wire, header ≤ wire.length → wire.length < whole wire →
    decode wire = .error (.tooShort (whole wire) wire.length)
  filled : ∀ wire needed actual, header ≤ wire.length → whole wire ≤ wire.length →
    decode wire ≠ .error (.tooShort needed actual)
  /-- Bytes behind the header do not change the size. -/
  steady : ∀ wire more, header ≤ wire.length → whole (wire ++ more) = whole wire

namespace Measures

variable {α : Type} {decode : Bytes → Except WireError α} {header : Nat} {whole : Bytes → Nat}

/-- A decoder that misses nothing once the header is there. -/
theorem of_filled
    (short : ∀ wire, wire.length < header → decode wire = .error (.tooShort header wire.length))
    (filled : ∀ wire needed actual, header ≤ wire.length →
      decode wire ≠ .error (.tooShort needed actual)) :
    Measures decode header fun _ => header := by
  constructor
  case short => exact short
  case lacking =>
    intro wire headed missing
    exact absurd headed (Nat.not_le_of_lt missing)
  case filled =>
    intro wire needed actual headed _
    exact filled wire needed actual headed
  case steady => exact fun _ _ _ => rfl

/-- Bytes are too few for the header, or for the size that the header tells. -/
theorem cases_of_tooShort (measures : Measures decode header whole) {wire : Bytes}
    {needed actual : Nat} (refused : decode wire = .error (.tooShort needed actual)) :
    actual = wire.length ∧ wire.length < needed ∧
      (wire.length < header ∧ needed = header ∨
        header ≤ wire.length ∧ needed = whole wire) := by
  by_cases short : wire.length < header
  · rw [measures.short wire short] at refused
    cases refused
    exact ⟨rfl, short, .inl ⟨short, rfl⟩⟩
  have headed : header ≤ wire.length := Nat.le_of_not_lt short
  by_cases lacking : wire.length < whole wire
  · rw [measures.lacking wire headed lacking] at refused
    cases refused
    exact ⟨rfl, lacking, .inr ⟨headed, rfl⟩⟩
  · exact absurd refused (measures.filled wire needed actual headed (Nat.le_of_not_lt lacking))

theorem asksHonestly (measures : Measures decode header whole) :
    AsksHonestly decode header := by
  constructor
  case refused => exact measures.short
  case sized =>
    intro wire needed actual refused
    obtain ⟨same, missing, _⟩ := measures.cases_of_tooShort refused
    exact ⟨same, missing⟩
  case kept =>
    intro wire more needed actual refused missing
    obtain ⟨_, _, ⟨_, rfl⟩ | ⟨headed, rfl⟩⟩ := measures.cases_of_tooShort refused
    · exact measures.short _ missing
    · rw [← measures.steady wire more headed] at missing ⊢
      apply measures.lacking _ _ missing
      rw [List.length_append]
      exact Nat.le_add_right_of_le headed

/-- A decoder of records that consist of a header and what follows asks once. -/
theorem asksOnce (measures : Measures decode header fun _ => header) :
    AsksOnce decode header := by
  refine ⟨measures.asksHonestly, ?_⟩
  intro wire more needed actual refused enough larger size
  obtain ⟨_, _, ⟨_, rfl⟩ | ⟨_, rfl⟩⟩ := measures.cases_of_tooShort refused
  · exact measures.filled _ larger size enough enough
  · exact measures.filled _ larger size enough enough

/-- A decoder that reads every whole record asks twice, if a header asks for more than
itself. -/
theorem asksTwice (measures : Measures decode header whole)
    (reads : ∀ wire, header ≤ wire.length → whole wire ≤ wire.length →
      ∃ value, decode wire = .ok value)
    {start : Bytes} (headed : start.length = header) (positive : 0 < header)
    (declaring : header < whole start) : AsksTwice decode header := by
  refine ⟨measures.asksHonestly, ?_, ?_⟩
  · intro wire more needed actual larger size refused enough again
    obtain ⟨_, missing, second⟩ := measures.cases_of_tooShort again
    refine ⟨Nat.lt_of_le_of_lt enough missing, ?_⟩
    intro rest reaching
    -- The first demand was met, so the second one is not for the header.
    have filling : header ≤ (wire ++ more).length := by
      obtain ⟨_, _, ⟨_, rfl⟩ | ⟨before, _⟩⟩ := measures.cases_of_tooShort refused
      · exact enough
      · rw [List.length_append]
        exact Nat.le_add_right_of_le before
    obtain ⟨unfilled, _⟩ | ⟨_, rfl⟩ := second
    · exact absurd filling (Nat.not_le_of_lt unfilled)
    · apply reads
      · rw [List.length_append]
        exact Nat.le_add_right_of_le filling
      · rwa [measures.steady _ rest filling]
  · refine ⟨[], start, header, 0, whole start, header, measures.short [] positive, ?_, ?_⟩
    · exact Nat.le_of_eq headed.symm
    · have lacking := measures.lacking start (Nat.le_of_eq headed.symm) (headed ▸ declaring)
      rwa [headed] at lacking

end Measures

namespace LengthPolicy

/-- Checking the lengths of a value that is there never asks for more bytes. -/
theorem result_check_bind_ne_tooShort {α : Type} (policy : LengthPolicy)
    (declared actual needed size : Nat) (value : α) (events : List Event) :
    (policy.check declared actual >>= fun _ => ⟨.ok value, events⟩).result ≠
      .error (.tooShort needed size) := by
  unfold check
  by_cases same : declared = actual
  · simp [same]
  · cases policy <;> simp [same, mismatch]

end LengthPolicy

namespace Frame

theorem measures_decode (policy : LengthPolicy) :
    Measures (fun wire => (decode policy wire).result) headerSize fun _ => headerSize := by
  apply Measures.of_filled
  case short =>
    intro wire short
    simp only [decode_of_length_lt short, Attempt.result_fail]
  case filled =>
    intro wire needed actual headed
    match wire, headed with
    | opcode :: low :: high :: dataLength :: data, _ =>
        exact policy.result_check_bind_ne_tooShort dataLength.toNat data.length needed actual
          (Frame.mk opcode (Word16.ofBytes low high) dataLength data) _

end Frame

namespace HubMessage

theorem measures_decode (policy : LengthPolicy) :
    Measures (fun wire => (decode policy wire).result) minimumSize fun _ => minimumSize := by
  apply Measures.of_filled
  case short =>
    intro wire short
    simp only [decode, if_pos short, Attempt.result_fail]
  case filled =>
    intro wire needed actual headed
    match wire, headed with
    | opcode :: low :: high :: dataLength ::
        sixth :: fifth :: fourth :: third :: second :: first ::
        typeLow :: typeHigh :: payload, long =>
      -- The frame has data for the header of a message, so only its lengths can fail.
      simp only [decode, if_neg (Nat.not_lt_of_le long), Frame.decode, Attempt.bind_assoc,
        Attempt.pure_bind]
      exact policy.result_check_bind_ne_tooShort dataLength.toNat (payload.length + 8)
        needed actual
        (HubMessage.mk opcode (Word16.ofBytes low high)
          ⟨first, second, third, fourth, fifth, sixth⟩ (Word16.ofBytes typeLow typeHigh) payload)
        _

end HubMessage

namespace MeshCommand

theorem measures_decode (policy : LengthPolicy) :
    Measures (fun wire => (decode policy wire).result) headerSize fun _ => headerSize := by
  apply Measures.of_filled
  case short =>
    intro wire short
    simp only [decode_of_length_lt short, Attempt.result_fail]
  case filled =>
    intro wire needed actual headed
    match wire, headed with
    | channel :: reserved :: lengthLow :: lengthHigh ::
        sixth :: fifth :: fourth :: third :: second :: first ::
        typeLow :: typeHigh :: payload, _ =>
      exact policy.result_check_bind_ne_tooShort (Word16.ofBytes lengthLow lengthHigh).toNat
        (countedHeader + payload.length) needed actual
        (MeshCommand.mk channel ⟨first, second, third, fourth, fifth, sixth⟩
          (Word16.ofBytes typeLow typeHigh) payload)
        _

end MeshCommand

namespace ConfigRecord

/-- The size of the record that starts with some bytes, as its third and fourth byte tell. -/
def declaredSize (wire : Bytes) : Nat :=
  headerSize + (Word16.ofBytes (wire.getD 2 0) (wire.getD 3 0)).toNat

theorem declaredSize_le_length_iff (kind reserved low high : UInt8) (rest : Bytes) :
    declaredSize (kind :: reserved :: low :: high :: rest) ≤
        (kind :: reserved :: low :: high :: rest).length ↔
      (Word16.ofBytes low high).toNat ≤ rest.length := by
  have declared : declaredSize (kind :: reserved :: low :: high :: rest) =
      4 + (Word16.ofBytes low high).toNat := rfl
  rw [declared]
  simp only [List.length_cons]
  omega

theorem exists_header_of_le {wire : Bytes} (headed : headerSize ≤ wire.length) :
    ∃ kind reserved low high rest, wire = kind :: reserved :: low :: high :: rest := by
  match wire, headed with
  | kind :: reserved :: low :: high :: rest, _ => exact ⟨kind, reserved, low, high, rest, rfl⟩

theorem result_decode_of_declaredSize_le {wire : Bytes} (headed : headerSize ≤ wire.length)
    (enough : declaredSize wire ≤ wire.length) :
    ∃ record, (decode wire).result = .ok record := by
  obtain ⟨kind, reserved, low, high, rest, rfl⟩ := exists_header_of_le headed
  refine ⟨⟨kind, Word16.ofBytes low high, rest.take (Word16.ofBytes low high).toNat⟩, ?_⟩
  rw [declaredSize_le_length_iff] at enough
  simp only [decode, if_pos enough]
  rfl

theorem measures_decode :
    Measures (fun wire => (decode wire).result) headerSize declaredSize := by
  constructor
  case short =>
    intro wire short
    match wire, short with
    | [], _ => rfl
    | [_], _ => rfl
    | [_, _], _ => rfl
    | [_, _, _], _ => rfl
  case lacking =>
    intro wire headed missing
    obtain ⟨kind, reserved, low, high, rest, rfl⟩ := exists_header_of_le headed
    rw [← Nat.not_le, declaredSize_le_length_iff] at missing
    simp only [decode, if_neg missing]
    rfl
  case filled =>
    intro wire needed actual headed enough
    obtain ⟨record, decoded⟩ := result_decode_of_declaredSize_le headed enough
    simp [decoded]
  case steady =>
    intro wire more headed
    obtain ⟨kind, reserved, low, high, rest, rfl⟩ := exists_header_of_le headed
    rfl

end ConfigRecord

namespace ScanResult

/-- The size of the scan result that starts with some bytes, as its count tells. -/
def declaredSize (wire : Bytes) : Nat := 1 + (wire.getD 0 0).toNat * ScannedDevice.size

theorem decode_of_declaredSize_le {wire : Bytes} (headed : 1 ≤ wire.length)
    (enough : declaredSize wire ≤ wire.length) : ∃ result, decode wire = .ok result := by
  match wire, headed with
  | count :: rest, _ =>
      exact ⟨⟨ScannedDevice.decodeMany count.toNat rest⟩, if_pos enough⟩

theorem measures_decode : Measures decode 1 declaredSize := by
  constructor
  case short =>
    intro wire short
    match wire, short with
    | [], _ => rfl
  case lacking =>
    intro wire headed missing
    match wire, headed with
    | count :: rest, _ => exact if_neg (Nat.not_le_of_lt missing)
  case filled =>
    intro wire needed actual headed enough
    obtain ⟨result, decoded⟩ := decode_of_declaredSize_le headed enough
    simp [decoded]
  case steady =>
    intro wire more headed
    match wire, headed with
    | count :: rest, _ => rfl

end ScanResult

namespace TrackedDevice

theorem measures_decode : Measures decode size fun _ => size := by
  apply Measures.of_filled
  case short =>
    intro wire short
    rw [decode_of_length_ne (Nat.ne_of_lt short), if_pos short]
  case filled =>
    intro wire needed actual headed
    by_cases same : wire.length = size
    · match wire, same with
      | [sixth, fifth, fourth, third, second, first, rssi], _ => simp [decode]
    · rw [decode_of_length_ne same, if_neg (Nat.not_lt_of_le headed)]
      simp

end TrackedDevice

namespace PartialClock

theorem measures_readStamp : Measures readStamp stampSize fun _ => stampSize := by
  apply Measures.of_filled
  case short =>
    intro wire short
    match wire, short with
    | [], _ => rfl
    | [_], _ => rfl
  case filled =>
    intro wire needed actual headed
    match wire, headed with
    | low :: high :: rest, _ => simp [readStamp]

end PartialClock

/-- No decoder reaches outside the bytes that it is given, and what it says about too few
bytes can be relied on.  Only configuration records and scan results may ask a second
time. -/
theorem decoders_ask_honestly :
    (∀ policy,
      (∀ wire, Frame.decodeByPosition policy wire = some (Frame.decode policy wire)) ∧
        AsksOnce (fun wire => (Frame.decode policy wire).result) 4) ∧
    (∀ policy,
      (∀ wire, HubMessage.decodeByPosition policy wire = some (HubMessage.decode policy wire)) ∧
        AsksOnce (fun wire => (HubMessage.decode policy wire).result) 12) ∧
    (∀ policy,
      (∀ wire,
        MeshCommand.decodeByPosition policy wire = some (MeshCommand.decode policy wire)) ∧
        AsksOnce (fun wire => (MeshCommand.decode policy wire).result) 12) ∧
    ((∀ wire, ConfigRecord.decodeByPosition wire = some (ConfigRecord.decode wire)) ∧
      AsksTwice (fun wire => (ConfigRecord.decode wire).result) 4) ∧
    ((∀ wire, ScanResult.decodeByPosition wire = some (ScanResult.decode wire)) ∧
      AsksTwice ScanResult.decode 1) ∧
    ((∀ wire, TrackedDevice.decodeByPosition wire = some (TrackedDevice.decode wire)) ∧
      AsksOnce TrackedDevice.decode 7) ∧
    ((∀ wire, PartialClock.readStampByPosition wire = some (PartialClock.readStamp wire)) ∧
      AsksOnce PartialClock.readStamp 2) := by
  refine ⟨?_, ?_, ?_, ?_, ?_, ?_, ?_⟩
  · intro policy
    exact ⟨Frame.decodeByPosition_eq policy, (Frame.measures_decode policy).asksOnce⟩
  · intro policy
    exact ⟨HubMessage.decodeByPosition_eq policy, (HubMessage.measures_decode policy).asksOnce⟩
  · intro policy
    exact ⟨MeshCommand.decodeByPosition_eq policy, (MeshCommand.measures_decode policy).asksOnce⟩
  · refine ⟨ConfigRecord.decodeByPosition_eq, ?_⟩
    exact ConfigRecord.measures_decode.asksTwice
      (fun _ => ConfigRecord.result_decode_of_declaredSize_le)
      (show [0, 0, 1, 0].length = 4 from rfl) (by decide) (by decide)
  · refine ⟨ScanResult.decodeByPosition_eq, ?_⟩
    exact ScanResult.measures_decode.asksTwice
      (fun _ => ScanResult.decode_of_declaredSize_le)
      (show [1].length = 1 from rfl) (by decide) (by decide)
  · exact ⟨TrackedDevice.decodeByPosition_eq, TrackedDevice.measures_decode.asksOnce⟩
  · exact ⟨PartialClock.readStampByPosition_eq, PartialClock.measures_readStamp.asksOnce⟩

end RadioMesh
