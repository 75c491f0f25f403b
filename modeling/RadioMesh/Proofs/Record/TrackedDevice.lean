import RadioMesh.Proofs.Record.Correspondence
import RadioMesh.Proofs.Record.FixedWidth
import RadioMesh.Record.TrackedDevice
import Mathlib.Order.Bounds.Basic

/-!
# Reading tracked devices

Lists of tracked devices correspond to the byte strings whose length is a multiple of seven,
and the bytes of one list behind those of another are the bytes of both in a row.  A tracked
device is read alone from the bytes from which it is read as a list.
-/

namespace RadioMesh

namespace TrackedDevice

theorem fixedWidth_encode : FixedWidth encode size := by
  constructor
  case sized =>
    intro device
    rfl
  case started =>
    intro wire long
    match wire, long with
    | sixth :: fifth :: fourth :: third :: second :: first :: rssi :: rest, _ =>
        refine ⟨⟨⟨first, second, third, fourth, fifth, sixth⟩, rssi.toInt8⟩, rest, ?_⟩
        simp [encode, Address.encode]

theorem decode_encode (device : TrackedDevice) : decode device.encode = .ok device := by
  simp [decode, encode, Address.encode]

theorem decodeAll_encode_append (device : TrackedDevice) (rest : Bytes) :
    decodeAll (device.encode ++ rest) = device :: decodeAll rest := by
  simp [decodeAll, encode, Address.encode]

theorem encodeList_cons (device : TrackedDevice) (devices : List TrackedDevice) :
    encodeList (device :: devices) = device.encode ++ encodeList devices := rfl

theorem encodeList_singleton (device : TrackedDevice) : encodeList [device] = device.encode :=
  List.append_nil device.encode

theorem encodeList_append (devices others : List TrackedDevice) :
    encodeList (devices ++ others) = encodeList devices ++ encodeList others :=
  List.flatMap_append

theorem dvd_length_encodeList (devices : List TrackedDevice) :
    size ∣ (encodeList devices).length := by
  rw [encodeList, fixedWidth_encode.length_flatMap]
  exact Nat.dvd_mul_left size devices.length

theorem decodeAll_encodeList (devices : List TrackedDevice) :
    decodeAll (encodeList devices) = devices := by
  induction devices with
  | nil => rfl
  | cons device devices ih => rw [encodeList_cons, decodeAll_encode_append, ih]

theorem decodeList_encodeList (devices : List TrackedDevice) :
    decodeList (encodeList devices) = .ok devices := by
  rw [decodeList, if_pos (Nat.mod_eq_zero_of_dvd (dvd_length_encodeList devices)),
    decodeAll_encodeList]

theorem decodeList_encode (device : TrackedDevice) :
    decodeList device.encode = .ok [device] := by
  rw [← encodeList_singleton]
  exact decodeList_encodeList [device]

theorem exists_encodeList_eq_of_dvd {wire : Bytes} (whole : size ∣ wire.length) :
    ∃ devices, encodeList devices = wire :=
  fixedWidth_encode.exists_flatMap_eq_of_dvd whole

theorem decodeList_eq_ok_iff {wire : Bytes} {devices : List TrackedDevice} :
    decodeList wire = .ok devices ↔ encodeList devices = wire := by
  constructor
  · intro decoded
    by_cases whole : size ∣ wire.length
    · obtain ⟨others, rfl⟩ := exists_encodeList_eq_of_dvd whole
      rw [decodeList_encodeList] at decoded
      cases decoded
      rfl
    · rw [decodeList, if_neg (mt Nat.dvd_of_mod_eq_zero whole)] at decoded
      cases decoded
  · rintro rfl
    exact decodeList_encodeList devices

theorem decode_eq_ok_iff {wire : Bytes} {device : TrackedDevice} :
    decode wire = .ok device ↔ device.encode = wire := by
  constructor
  · intro decoded
    unfold decode at decoded
    split at decoded
    · cases decoded
      simp [encode, Address.encode]
    · split at decoded <;> cases decoded
  · rintro rfl
    exact decode_encode device

/-- Behind the bytes of some devices, bytes are read as what they are read as alone. -/
theorem decodeList_encodeList_append_eq_ok_iff {devices all : List TrackedDevice}
    {back : Bytes} :
    decodeList (encodeList devices ++ back) = .ok all ↔
      ∃ others, decodeList back = .ok others ∧ all = devices ++ others := by
  constructor
  · intro decoded
    have whole : size ∣ back.length := by
      have total := dvd_length_encodeList all
      rw [decodeList_eq_ok_iff.mp decoded, List.length_append] at total
      exact (Nat.dvd_add_right (dvd_length_encodeList devices)).mp total
    obtain ⟨others, rfl⟩ := exists_encodeList_eq_of_dvd whole
    rw [← encodeList_append, decodeList_encodeList] at decoded
    cases decoded
    exact ⟨others, decodeList_encodeList others, rfl⟩
  · rintro ⟨others, decoded, rfl⟩
    rw [← decodeList_eq_ok_iff.mp decoded, ← encodeList_append]
    exact decodeList_encodeList (devices ++ others)

theorem isGreatest_div_mul (length : Nat) :
    IsGreatest {multiple | size ∣ multiple ∧ multiple ≤ length} (length / size * size) := by
  constructor
  · exact ⟨Nat.dvd_mul_left size _, Nat.div_mul_le_self length size⟩
  · rintro multiple ⟨⟨count, rfl⟩, fits⟩
    rw [Nat.mul_comm size] at fits ⊢
    apply Nat.mul_le_mul_right
    exact (Nat.le_div_iff_mul_le (by decide)).mpr fits

theorem decodeList_of_not_dvd {wire : Bytes} (broken : ¬size ∣ wire.length) :
    decodeList wire = .error (.invalidLength (wire.length / size * size) wire.length) :=
  if_neg (mt Nat.dvd_of_mod_eq_zero broken)

theorem corresponds_lists :
    Corresponds decodeList encodeList Set.univ {wire | 7 ∣ wire.length} := by
  apply corresponds_of_eq_ok_iff
  · intro wire devices
    rw [decodeList_eq_ok_iff, and_iff_right (Set.mem_univ devices)]
  · intro wire
    constructor
    · intro whole
      obtain ⟨devices, same⟩ := exists_encodeList_eq_of_dvd whole
      exact ⟨devices, Set.mem_univ devices, same⟩
    · rintro ⟨devices, _, rfl⟩
      exact dvd_length_encodeList devices

/-- Lists of tracked devices correspond to the byte strings whose length is a multiple of
seven, and any other is refused with the greatest such length that it has room for.  Bytes
behind those of a list are read as what they are read as alone.  And one device is read from
the bytes from which it is read as a list. -/
theorem lists_read_device_by_device :
    Corresponds decodeList encodeList Set.univ {wire | 7 ∣ wire.length} ∧
      (∀ wire : Bytes, ¬7 ∣ wire.length →
        ∃ expected, IsGreatest {multiple | 7 ∣ multiple ∧ multiple ≤ wire.length} expected ∧
          decodeList wire = .error (.invalidLength expected wire.length)) ∧
      (∀ front back : Bytes, 7 ∣ front.length →
        ∃ devices, decodeList front = .ok devices ∧
          ∀ all, decodeList (front ++ back) = .ok all ↔
            ∃ others, decodeList back = .ok others ∧ all = devices ++ others) ∧
      ∀ wire device, decode wire = .ok device ↔ decodeList wire = .ok [device] := by
  refine ⟨corresponds_lists, ?_, ?_, ?_⟩
  · intro wire broken
    exact ⟨_, isGreatest_div_mul wire.length, decodeList_of_not_dvd broken⟩
  · intro front back whole
    obtain ⟨devices, rfl⟩ := exists_encodeList_eq_of_dvd whole
    refine ⟨devices, decodeList_encodeList devices, ?_⟩
    intro all
    exact decodeList_encodeList_append_eq_ok_iff
  · intro wire device
    rw [decode_eq_ok_iff, decodeList_eq_ok_iff, encodeList_singleton]

/-- One device and three bytes are refused, and so are the same bytes behind a device. -/
theorem lists_read_device_by_device_of_broken_list :
    let front : Bytes := [6, 5, 4, 3, 2, 1, 0xC4]
    let back : Bytes := [6, 5, 4, 3, 2, 1, 0xC4, 1, 2, 3]
    ¬7 ∣ back.length ∧
      (∃ expected, IsGreatest {multiple | 7 ∣ multiple ∧ multiple ≤ 10} expected ∧
        decodeList back = .error (.invalidLength expected 10)) ∧
      7 ∣ front.length ∧ ∀ all, decodeList (front ++ back) ≠ .ok all := by
  intro front back
  have broken : ¬7 ∣ back.length := by decide
  have whole : 7 ∣ front.length := by decide
  obtain ⟨_, refused, joined, _⟩ := lists_read_device_by_device
  obtain ⟨expected, greatest, failed⟩ := refused back broken
  refine ⟨broken, ⟨expected, greatest, failed⟩, whole, ?_⟩
  intro all decoded
  obtain ⟨devices, _, split⟩ := joined front back whole
  obtain ⟨others, behind, _⟩ := (split all).mp decoded
  rw [failed] at behind
  cases behind

end TrackedDevice

end RadioMesh
