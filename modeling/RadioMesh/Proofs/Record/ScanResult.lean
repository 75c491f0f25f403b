import RadioMesh.Proofs.Record.FixedWidth
import RadioMesh.Record.ScanResult

/-!
# Reading scan results

The devices of a scan result are read back one after the other, whatever follows the last
of them.  So a byte string is read as a scan result exactly if it starts with the encoding
of that result, which is the case if it is as long as its first byte says.
-/

namespace RadioMesh

namespace ScannedDevice

theorem fixedWidth_encode : FixedWidth encode size := by
  constructor
  case sized =>
    intro device
    rfl
  case started =>
    intro wire long
    match wire, long with
    | sixth :: fifth :: fourth :: third :: second :: first :: rssi :: low :: high :: rest, _ =>
        refine ⟨⟨⟨first, second, third, fourth, fifth, sixth⟩, rssi.toInt8,
          Word16.ofBytes low high⟩, rest, ?_⟩
        simp [encode, Address.encode, Word16.toBytes]

theorem decodeMany_encode_append (device : ScannedDevice) (count : Nat) (rest : Bytes) :
    decodeMany (count + 1) (device.encode ++ rest) = device :: decodeMany count rest := by
  simp [encode, Address.encode, Word16.toBytes, decodeMany]

theorem decodeMany_flatMap_encode_append (devices : List ScannedDevice) (trailing : Bytes) :
    decodeMany devices.length (devices.flatMap encode ++ trailing) = devices := by
  induction devices with
  | nil => rfl
  | cons device devices ih =>
      rw [List.flatMap_cons, List.append_assoc, List.length_cons, decodeMany_encode_append, ih]

end ScannedDevice

namespace ScanResult

theorem encode_eq_ok_iff {result : ScanResult} {wire : Bytes} :
    result.encode = .ok wire ↔ result.devices.length ≤ deviceLimit ∧
      wire = UInt8.ofNat result.devices.length ::
        result.devices.flatMap ScannedDevice.encode := by
  unfold encode
  split
  · next few => simp [few, eq_comm]
  · next many => simp [many]

theorem encode_of_deviceLimit_lt {result : ScanResult}
    (many : deviceLimit < result.devices.length) :
    result.encode = .error (.payloadTooLarge result.devices.length deviceLimit) :=
  if_neg (Nat.not_le_of_lt many)

theorem length_of_encode_eq_ok {result : ScanResult} {wire : Bytes}
    (encoded : result.encode = .ok wire) : wire.length = 1 + 9 * result.devices.length := by
  obtain ⟨_, rfl⟩ := encode_eq_ok_iff.mp encoded
  rw [List.length_cons, ScannedDevice.fixedWidth_encode.length_flatMap, ScannedDevice.size]
  omega

/-- A scan result is read back, and bytes behind it do not matter. -/
theorem decode_append_of_encode_eq_ok {result : ScanResult} {wire : Bytes}
    (encoded : result.encode = .ok wire) (trailing : Bytes) :
    decode (wire ++ trailing) = .ok result := by
  have size := length_of_encode_eq_ok encoded
  obtain ⟨few, rfl⟩ := encode_eq_ok_iff.mp encoded
  have counted : (UInt8.ofNat result.devices.length).toNat = result.devices.length := by
    apply UInt8.toNat_ofNat_of_lt'
    exact Nat.lt_succ_of_le few
  have enough : 1 + result.devices.length * ScannedDevice.size ≤
      (UInt8.ofNat result.devices.length ::
        (result.devices.flatMap ScannedDevice.encode ++ trailing)).length := by
    simp only [List.length_cons, List.length_append, ScannedDevice.size] at size ⊢
    omega
  rw [List.cons_append]
  simp only [decode, counted, if_pos enough,
    ScannedDevice.decodeMany_flatMap_encode_append]

/-- The byte strings that are read as a scan result are those that start with its
encoding. -/
theorem decode_eq_ok_iff {wire : Bytes} {result : ScanResult} :
    decode wire = .ok result ↔
      ∃ encoded trailing, result.encode = .ok encoded ∧ wire = encoded ++ trailing := by
  constructor
  · intro decoded
    cases wire with
    | nil => cases decoded
    | cons count rest =>
        simp only [decode] at decoded
        split at decoded
        · next enough =>
            have reaching : count.toNat * ScannedDevice.size ≤ rest.length := by
              rw [List.length_cons] at enough
              omega
            obtain ⟨devices, trailing, counted, rfl⟩ :=
              ScannedDevice.fixedWidth_encode.exists_flatMap_append reaching
            rw [← counted, ScannedDevice.decodeMany_flatMap_encode_append] at decoded
            cases decoded
            refine ⟨_, trailing, encode_eq_ok_iff.mpr ⟨?_, rfl⟩, ?_⟩
            · rw [counted]
              exact Nat.le_of_lt_succ count.toNat_lt
            · simp [counted]
        · cases decoded
  · rintro ⟨encoded, trailing, encodes, rfl⟩
    exact decode_append_of_encode_eq_ok encodes trailing

/-- A byte string is read if it is as long as its first byte says. -/
theorem exists_decode_eq_ok_iff {wire : Bytes} :
    (∃ result, decode wire = .ok result) ↔
      ∃ count, wire.head? = some count ∧ 1 + 9 * count.toNat ≤ wire.length := by
  cases wire with
  | nil =>
      constructor
      · rintro ⟨result, decoded⟩
        cases decoded
      · rintro ⟨count, missing, _⟩
        cases missing
  | cons count rest =>
      have needed : 1 + count.toNat * ScannedDevice.size = 1 + 9 * count.toNat := by
        rw [Nat.mul_comm, ScannedDevice.size]
      constructor
      · rintro ⟨result, decoded⟩
        simp only [decode, needed] at decoded
        split at decoded
        · next enough => exact ⟨count, rfl, enough⟩
        · cases decoded
      · rintro ⟨first, same, enough⟩
        cases same
        simp only [decode, needed, if_pos enough]
        exact ⟨_, rfl⟩

/-- What an encoding starts with counts the devices. -/
theorem head?_of_encode_eq_ok {result : ScanResult} {wire : Bytes}
    (encoded : result.encode = .ok wire) :
    ∃ count, wire.head? = some count ∧ result.devices.length = count.toNat := by
  obtain ⟨few, rfl⟩ := encode_eq_ok_iff.mp encoded
  refine ⟨_, rfl, ?_⟩
  symm
  apply UInt8.toNat_ofNat_of_lt'
  exact Nat.lt_succ_of_le few

/-- A result that was read has as many devices as its first byte says, and is encoded as the
bytes that these take. -/
theorem encode_of_decode_eq_ok {wire : Bytes} {result : ScanResult}
    (decoded : decode wire = .ok result) :
    ∃ count, wire.head? = some count ∧ result.devices.length = count.toNat ∧
      result.encode = .ok (wire.take (1 + 9 * count.toNat)) := by
  obtain ⟨encoded, trailing, encodes, rfl⟩ := decode_eq_ok_iff.mp decoded
  obtain ⟨count, first, counted⟩ := head?_of_encode_eq_ok encodes
  have size : encoded.length = 1 + 9 * count.toNat := by
    rw [length_of_encode_eq_ok encodes, counted]
  refine ⟨count, ?_, counted, ?_⟩
  · rw [List.head?_append, first]
    rfl
  · rw [← size, List.take_left]
    exact encodes

/-- Scan results are read exactly.  A byte string is read if it is as long as its first byte
says; the result then has as many devices, it is encoded as the bytes that these take, and what
follows does not matter.  A result of at most 255 devices is encoded, and read back in front of
any bytes. -/
theorem scan_results_read_exactly :
    (∀ wire, (∃ result, decode wire = .ok result) ↔
      ∃ count, wire.head? = some count ∧ 1 + 9 * count.toNat ≤ wire.length) ∧
    (∀ wire result, decode wire = .ok result →
      ∃ count, wire.head? = some count ∧ result.devices.length = count.toNat ∧
        result.encode = .ok (wire.take (1 + 9 * count.toNat)) ∧
        ∀ other, decode (wire.take (1 + 9 * count.toNat) ++ other) = .ok result) ∧
    (∀ result : ScanResult,
      if result.devices.length ≤ 255 then
        ∃ wire, result.encode = .ok wire ∧
          ∀ trailing, decode (wire ++ trailing) = .ok result
      else result.encode = .error (.payloadTooLarge result.devices.length 255)) := by
  refine ⟨?_, ?_, ?_⟩
  · intro wire
    exact exists_decode_eq_ok_iff
  · intro wire result decoded
    obtain ⟨count, first, counted, encodes⟩ := encode_of_decode_eq_ok decoded
    exact ⟨count, first, counted, encodes, decode_append_of_encode_eq_ok encodes⟩
  · intro result
    split
    · next few =>
        have encodes := encode_eq_ok_iff.mpr ⟨few, rfl⟩
        exact ⟨_, encodes, decode_append_of_encode_eq_ok encodes⟩
    · next many => exact encode_of_deviceLimit_lt (Nat.lt_of_not_le many)

/-- One device, and a whole device behind it that does not count. -/
theorem scan_results_read_exactly_of_uncounted_device :
    let device : Bytes := [6, 5, 4, 3, 2, 1, 0xB5, 3, 0]
    let result : ScanResult := ⟨[⟨⟨1, 2, 3, 4, 5, 6⟩, -75, 3⟩]⟩
    decode (1 :: device ++ device) = .ok result ∧
      result.encode = .ok (1 :: device) ∧ decode (1 :: device ++ [9]) = .ok result := by
  intro device result
  have decoded : decode (1 :: device ++ device) = .ok result := rfl
  obtain ⟨count, first, _, encodes, reread⟩ := scan_results_read_exactly.2.1 _ _ decoded
  obtain rfl : 1 = count := Option.some.inj first
  exact ⟨decoded, encodes, reread [9]⟩

end ScanResult

end RadioMesh
