import RadioMesh.PartialClock
import RadioMesh.Record.ConfigRecord
import RadioMesh.Record.HubMessage
import RadioMesh.Record.MeshCommand
import RadioMesh.Record.TrackedDevice

/-!
# Reading by position

The layout of a record says at which positions of a byte string its fields lie.  Here
each decoder is written once more with all of its accesses: single bytes, slices, and the
conversion of six bytes into an address.  It stops without any answer at an access outside
the bytes or a conversion that fails.  Such a stop never happens: for all bytes the answer
is there, and it is that of the decoder.
-/

namespace RadioMesh

namespace Bytes

/-- The bytes from one position up to another, if there are so many. -/
def slice? (bytes : Bytes) (start stop : Nat) : Option Bytes :=
  if start ≤ stop ∧ stop ≤ bytes.length then some ((bytes.take stop).drop start) else none

/-- The bytes from a position on, if it is not beyond the end. -/
def from? (bytes : Bytes) (start : Nat) : Option Bytes := slice? bytes start bytes.length

theorem slice?_eq_some {bytes : Bytes} {start stop : Nat} (ordered : start ≤ stop)
    (reaching : stop ≤ bytes.length) :
    slice? bytes start stop = some ((bytes.take stop).drop start) :=
  if_pos ⟨ordered, reaching⟩

theorem from?_eq_some {bytes : Bytes} {start : Nat} (reaching : start ≤ bytes.length) :
    from? bytes start = some (bytes.drop start) := by
  rw [from?, slice?_eq_some reaching (Nat.le_refl _), List.take_length]

end Bytes

namespace Address

/-- The address that lies at a position, if it converts. -/
def at? (bytes : Bytes) (start : Nat) : Option Address := do
  let wire ← Bytes.slice? bytes start (start + size)
  (decode wire).toOption

theorem at?_eq_some {bytes rest : Bytes} {start : Nat}
    {sixth fifth fourth third second first : UInt8}
    (there : bytes.drop start =
      sixth :: fifth :: fourth :: third :: second :: first :: rest) :
    at? bytes start = some ⟨first, second, third, fourth, fifth, sixth⟩ := by
  have reaching : start + size ≤ bytes.length := by
    have long := congrArg List.length there
    simp only [List.length_drop, List.length_cons] at long
    rw [size]
    omega
  have wire : (bytes.take (start + size)).drop start =
      [sixth, fifth, fourth, third, second, first] := by
    rw [List.drop_take, there, Nat.add_sub_cancel_left]
    rfl
  rw [at?, Bytes.slice?_eq_some (Nat.le_add_right _ _) reaching, wire]
  rfl

end Address

namespace Frame

def decodeByPosition (policy : LengthPolicy) (wire : Bytes) :
    Option (Attempt WireError Frame) :=
  if wire.length < headerSize then some (.fail (.tooShort headerSize wire.length))
  else do
    let opcode ← wire[0]?
    let low ← wire[1]?
    let high ← wire[2]?
    let dataLength ← wire[3]?
    let data ← Bytes.from? wire headerSize
    let frame : Frame := ⟨opcode, Word16.ofBytes low high, dataLength, data⟩
    some do
      policy.check dataLength.toNat data.length
      .report frame.decodedEvent
      pure frame

theorem decodeByPosition_eq (policy : LengthPolicy) (wire : Bytes) :
    decodeByPosition policy wire = some (decode policy wire) := by
  match wire with
  | [] => rfl
  | [_] => rfl
  | [_, _] => rfl
  | [_, _, _] => rfl
  | opcode :: low :: high :: dataLength :: data =>
      have long : ¬(opcode :: low :: high :: dataLength :: data).length < headerSize := by
        simp only [List.length_cons, headerSize]
        omega
      rw [decodeByPosition, if_neg long, Bytes.from?_eq_some (Nat.le_of_not_lt long)]
      rfl

end Frame

namespace HubMessage

def ofFrameByPosition (frame : Frame) : Option (Except WireError HubMessage) :=
  if frame.data.length < headerSize then
    some (.error (.tooShort minimumSize (Frame.headerSize + frame.data.length)))
  else do
    let source ← Address.at? frame.data 0
    let low ← frame.data[6]?
    let high ← frame.data[7]?
    let payload ← Bytes.from? frame.data headerSize
    some (.ok ⟨frame.opcode, frame.handle, source, Word16.ofBytes low high, payload⟩)

theorem ofFrameByPosition_eq (frame : Frame) :
    ofFrameByPosition frame = some (ofFrame frame) := by
  obtain ⟨opcode, handle, dataLength, data⟩ := frame
  by_cases short : data.length < headerSize
  · rw [ofFrameByPosition, if_pos short]
    unfold ofFrame
    split
    · next content =>
        simp only [headerSize] at short content
        simp only [content, List.length_cons] at short
        omega
    · rfl
  · rw [ofFrameByPosition, if_neg short, Bytes.from?_eq_some (Nat.le_of_not_lt short)]
    match data, Nat.le_of_not_lt short with
    | sixth :: fifth :: fourth :: third :: second :: first :: low :: high :: payload, _ =>
        rw [Address.at?_eq_some List.drop_zero]
        rfl

/-- The frame is decoded first, and the message is read from its data. -/
def decodeByPosition (policy : LengthPolicy) (wire : Bytes) :
    Option (Attempt WireError HubMessage) :=
  if wire.length < minimumSize then some (.fail (.tooShort minimumSize wire.length))
  else do
    let envelope ← Frame.decodeByPosition policy wire
    let built ← match envelope.result with
      | .ok frame => ofFrameByPosition frame
      | .error error => some (.error error)
    some do
      let _ ← envelope
      let message ← Attempt.ofExcept built
      .report message.decodedEvent
      pure message

theorem decodeByPosition_eq (policy : LengthPolicy) (wire : Bytes) :
    decodeByPosition policy wire = some (decode policy wire) := by
  unfold decodeByPosition decode
  by_cases short : wire.length < minimumSize
  · rw [if_pos short, if_pos short]
  · rw [if_neg short, if_neg short, Frame.decodeByPosition_eq]
    obtain ⟨result, events⟩ := Frame.decode policy wire
    cases result with
    | error error => rfl
    | ok frame =>
        simp only [bind, Option.bind, ofFrameByPosition_eq]
        rfl

end HubMessage

namespace MeshCommand

def decodeByPosition (policy : LengthPolicy) (wire : Bytes) :
    Option (Attempt WireError MeshCommand) :=
  if wire.length < headerSize then some (.fail (.tooShort headerSize wire.length))
  else do
    let channel ← wire[0]?
    let lengthLow ← wire[2]?
    let lengthHigh ← wire[3]?
    let target ← Address.at? wire 4
    let typeLow ← wire[10]?
    let typeHigh ← wire[11]?
    let payload ← Bytes.from? wire headerSize
    let command : MeshCommand := ⟨channel, target, Word16.ofBytes typeLow typeHigh, payload⟩
    some do
      policy.check (Word16.ofBytes lengthLow lengthHigh).toNat (countedHeader + payload.length)
      .report command.decodedEvent
      pure command

theorem decodeByPosition_eq (policy : LengthPolicy) (wire : Bytes) :
    decodeByPosition policy wire = some (decode policy wire) := by
  by_cases short : wire.length < headerSize
  · rw [decodeByPosition, if_pos short, decode_of_length_lt short]
  · rw [decodeByPosition, if_neg short, Bytes.from?_eq_some (Nat.le_of_not_lt short)]
    match wire, Nat.le_of_not_lt short with
    | channel :: reserved :: lengthLow :: lengthHigh ::
        sixth :: fifth :: fourth :: third :: second :: first ::
        typeLow :: typeHigh :: payload, _ =>
        have target : Address.at?
            (channel :: reserved :: lengthLow :: lengthHigh ::
              sixth :: fifth :: fourth :: third :: second :: first ::
              typeLow :: typeHigh :: payload) 4 =
            some ⟨first, second, third, fourth, fifth, sixth⟩ := Address.at?_eq_some rfl
        rw [target]
        rfl

end MeshCommand

namespace ConfigRecord

def decodeByPosition (wire : Bytes) : Option (Attempt WireError ConfigRecord) :=
  if wire.length < headerSize then some (.fail (.tooShort headerSize wire.length))
  else do
    let kind ← wire[0]?
    let low ← wire[2]?
    let high ← wire[3]?
    let length := Word16.ofBytes low high
    let stop := headerSize + length.toNat
    if wire.length < stop then some (.fail (.tooShort stop wire.length))
    else do
      let payload ← Bytes.slice? wire headerSize stop
      let record : ConfigRecord := ⟨kind, length, payload⟩
      some do
        .report (record.decodedEvent (wire.length - stop))
        pure record

theorem decodeByPosition_eq (wire : Bytes) : decodeByPosition wire = some (decode wire) := by
  match wire with
  | [] => rfl
  | [_] => rfl
  | [_, _] => rfl
  | [_, _, _] => rfl
  | kind :: reserved :: low :: high :: rest =>
      have size : (kind :: reserved :: low :: high :: rest).length = headerSize + rest.length := by
        simp only [List.length_cons, headerSize]
        omega
      have long : ¬(kind :: reserved :: low :: high :: rest).length < headerSize := by
        omega
      rw [decodeByPosition, if_neg long]
      simp only [List.getElem?_cons_zero, List.getElem?_cons_succ, Option.bind_eq_bind,
        Option.bind_some, decode]
      by_cases enough : (Word16.ofBytes low high).toNat ≤ rest.length
      · have reaching : headerSize + (Word16.ofBytes low high).toNat ≤
            (kind :: reserved :: low :: high :: rest).length := by omega
        rw [if_pos enough, if_neg (Nat.not_lt.mpr reaching),
          Bytes.slice?_eq_some (Nat.le_add_right _ _) reaching, size, Nat.add_sub_add_left,
          List.drop_take, Nat.add_sub_cancel_left]
        rfl
      · rw [if_neg enough, if_pos (by omega)]

end ConfigRecord

namespace ScannedDevice

def ofRecord? (record : Bytes) : Option ScannedDevice := do
  let address ← Address.at? record 0
  let rssi ← record[6]?
  let low ← record[7]?
  let high ← record[8]?
  some ⟨address, rssi.toInt8, Word16.ofBytes low high⟩

/-- Some devices one after the other, the first of them at a position. -/
def manyAt? (wire : Bytes) : Nat → Nat → Option (List ScannedDevice)
  | 0, _ => some []
  | count + 1, start => do
      let record ← Bytes.slice? wire start (start + size)
      let device ← ofRecord? record
      let devices ← manyAt? wire count (start + size)
      some (device :: devices)

/-- Where the bytes are long enough for some devices, each of them is found. -/
theorem manyAt?_eq_some {wire : Bytes} {count start : Nat}
    (enough : start + count * size ≤ wire.length) :
    manyAt? wire count start = some (decodeMany count (wire.drop start)) := by
  induction count generalizing start with
  | zero => simp [manyAt?, decodeMany]
  | succ count ih =>
      have later : start + size + count * size ≤ wire.length := by
        rw [Nat.succ_mul] at enough
        omega
      have reaching : start + size ≤ wire.length := by omega
      have long : size ≤ (wire.drop start).length := by
        rw [List.length_drop]
        omega
      rw [manyAt?, Bytes.slice?_eq_some (Nat.le_add_right _ _) reaching, ih later,
        List.drop_take, Nat.add_sub_cancel_left, ← List.drop_drop]
      match wire.drop start, long with
      | sixth :: fifth :: fourth :: third :: second :: first :: rssi :: low :: high :: rest, _ =>
          rfl

end ScannedDevice

namespace ScanResult

def decodeByPosition (wire : Bytes) : Option (Except WireError ScanResult) :=
  if wire.length < 1 then some (.error (.tooShort 1 wire.length))
  else do
    let count ← wire[0]?
    let needed := 1 + count.toNat * ScannedDevice.size
    if wire.length < needed then some (.error (.tooShort needed wire.length))
    else do
      let devices ← ScannedDevice.manyAt? wire count.toNat 1
      some (.ok ⟨devices⟩)

theorem decodeByPosition_eq (wire : Bytes) : decodeByPosition wire = some (decode wire) := by
  cases wire with
  | nil => rfl
  | cons count rest =>
      have nonempty : ¬(count :: rest).length < 1 := by simp
      rw [decodeByPosition, if_neg nonempty]
      simp only [List.getElem?_cons_zero, Option.bind_eq_bind, Option.bind_some, decode]
      by_cases enough : 1 + count.toNat * ScannedDevice.size ≤ (count :: rest).length
      · rw [if_pos enough, if_neg (Nat.not_lt.mpr enough), ScannedDevice.manyAt?_eq_some enough]
        rfl
      · rw [if_neg enough, if_pos (Nat.lt_of_not_le enough)]

end ScanResult

namespace TrackedDevice

def decodeByPosition (wire : Bytes) : Option (Except WireError TrackedDevice) :=
  if wire.length < size then some (.error (.tooShort size wire.length))
  else if wire.length ≠ size then some (.error (.invalidLength size wire.length))
  else do
    let address ← Address.at? wire 0
    let rssi ← wire[6]?
    some (.ok ⟨address, rssi.toInt8⟩)

theorem decode_of_length_ne {wire : Bytes} (different : wire.length ≠ size) :
    decode wire =
      if wire.length < size then .error (.tooShort size wire.length)
      else .error (.invalidLength size wire.length) := by
  unfold decode
  split
  · exact absurd rfl different
  · rfl

theorem decodeByPosition_eq (wire : Bytes) : decodeByPosition wire = some (decode wire) := by
  unfold decodeByPosition
  by_cases short : wire.length < size
  · rw [if_pos short, decode_of_length_ne (Nat.ne_of_lt short), if_pos short]
  by_cases same : wire.length = size
  · rw [if_neg short, if_neg (not_not_intro same)]
    match wire, same with
    | [sixth, fifth, fourth, third, second, first, rssi], _ => rfl
  · rw [if_neg short, if_pos same, decode_of_length_ne same, if_neg short]

end TrackedDevice

namespace PartialClock

def stampSize : Nat := 2

def readStampByPosition (wire : Bytes) : Option (Except WireError UInt16) :=
  if wire.length < stampSize then some (.error (.tooShort stampSize wire.length))
  else do
    let low ← wire[0]?
    let high ← wire[1]?
    some (.ok (Word16.ofBytes low high))

theorem readStampByPosition_eq (wire : Bytes) :
    readStampByPosition wire = some (readStamp wire) := by
  match wire with
  | [] => rfl
  | [_] => rfl
  | low :: high :: rest =>
      have long : ¬(low :: high :: rest).length < stampSize := by
        simp only [List.length_cons, stampSize]
        omega
      rw [readStampByPosition, if_neg long]
      rfl

end PartialClock

end RadioMesh
