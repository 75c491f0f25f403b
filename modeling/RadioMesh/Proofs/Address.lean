import RadioMesh.Address
import RadioMesh.Proofs.Text.Spelling
import Mathlib.Data.List.Forall2

/-!
# Addresses as text

Text is read as an address exactly when it is pairs of digits with single colons between them,
which spell the bytes of the address.  So what is shown of an address is read as this address,
and an address that was read from text is shown as this text in lower case.
-/

namespace RadioMesh

open Text

namespace Text

theorem toLower_of_digit {character : Char} {value : Nat}
    (digit : IsDigitFor 16 character value) : character.toLower = Nat.digitChar value := by
  have lower : ∀ place : Fin 16, lowerDigits[place].toLower = Nat.digitChar place := by decide
  have upper : ∀ place : Fin 16, upperDigits[place].toLower = Nat.digitChar place := by decide
  rcases digit.2 with place | place
  · obtain ⟨small, rfl⟩ := List.getElem?_eq_some_iff.mp place
    exact lower ⟨value, small⟩
  · obtain ⟨small, rfl⟩ := List.getElem?_eq_some_iff.mp place
    exact upper ⟨value, small⟩

/-- Two digits that spell a byte are, in lower case, the digits that are printed for it. -/
theorem Hex.SpellsByte.map_toLower {pair : List Char} {byte : UInt8}
    (spells : Hex.SpellsByte pair byte) : pair.map Char.toLower = Hex.byteDigits byte := by
  obtain ⟨high, low, highValue, lowValue, rfl, first, second, sum⟩ := spells.exists_digits
  have lowSmall := second.1
  have quotient : byte.toNat / 16 = highValue := by omega
  have remainder : byte.toNat % 16 = lowValue := by omega
  rw [Hex.byteDigits, quotient, remainder, ← toLower_of_digit first, ← toLower_of_digit second]
  rfl

/-- A character whose lower case stands before the letters is its own lower case. -/
theorem toLower_eq_self {character : Char} (early : character.toLower.toNat < 97) :
    character.toLower = character := by
  unfold Char.toLower at early ⊢
  split at early
  · next upper =>
      exfalso
      have high : character.val.toNat ≤ 90 := upper.2
      have low : 65 ≤ character.val.toNat := upper.1
      change (character.val + 32).toNat < 97 at early
      rw [UInt32.toNat_add] at early
      change (character.val.toNat + 32) % 4294967296 < 97 at early
      omega
  · next other => rw [dif_neg other]

theorem toList_toLower (text : String) : text.toLower.toList = text.toList.map Char.toLower :=
  String.toList_map

theorem toLower_eq_zeros_iff {text : String} :
    text.toLower = "00:00:00:00:00:00" ↔ text = "00:00:00:00:00:00" := by
  have lowered := toList_toLower text
  constructor
  · intro zeros
    rw [zeros] at lowered
    have early : ∀ character ∈ "00:00:00:00:00:00".toList, character.toNat < 97 := by simp
    have same : text.toList.map Char.toLower = text.toList.map id := by
      apply List.map_congr_left
      intro character member
      apply toLower_eq_self
      apply early
      rw [lowered]
      exact List.mem_map_of_mem member
    rw [same, List.map_id] at lowered
    exact (String.toList_inj.mp lowered).symm
  · rintro rfl
    apply String.toList_inj.mp
    rw [lowered]
    rfl

end Text

namespace Address

/-- The pairs of digits, with single colons between them, that spell an address. -/
def IsSpelledBy (address : Address) (text : List Char) : Prop :=
  ∃ pairs, List.Forall₂ Hex.SpellsByte pairs address.bytes ∧ text = [':'].intercalate pairs

theorem pairValue?_eq_some_iff {high low : Char} {byte : UInt8} :
    pairValue? high low = some byte ↔ Hex.SpellsByte [high, low] byte := by
  constructor
  · intro found
    unfold pairValue? at found
    split at found
    · next highValue lowValue highFound lowFound =>
        cases found
        have first := digitValue?_eq_some_iff.mp highFound
        have second := digitValue?_eq_some_iff.mp lowFound
        have highSmall := first.1
        have lowSmall := second.1
        apply Hex.spellsByte_of_digits first second
        rw [UInt8.toNat_ofNat_of_lt' (by change _ < 256; omega)]
    · cases found
  · intro spells
    obtain ⟨_, _, highValue, lowValue, same, first, second, sum⟩ := spells.exists_digits
    cases same
    rw [pairValue?, digitValue?_eq_some_iff.mpr first, digitValue?_eq_some_iff.mpr second]
    simp [sum]

theorem ne_nil_of_pairs? {characters : List Char} {bytes : Bytes}
    (found : pairs? characters = some bytes) : bytes ≠ [] := by
  rintro rfl
  unfold pairs? at found
  split at found
  · cases Option.map_eq_some_iff.mp found with
    | intro byte spelled => cases spelled.2
  · split at found <;> cases found
  · cases found

theorem pairs?_eq_some_iff {text : List Char} {bytes : Bytes} :
    pairs? text = some bytes ↔
      bytes ≠ [] ∧ ∃ pairs, List.Forall₂ Hex.SpellsByte pairs bytes ∧
        text = [':'].intercalate pairs := by
  constructor
  · intro found
    refine ⟨ne_nil_of_pairs? found, ?_⟩
    fun_induction pairs? text generalizing bytes with
    | case1 high low =>
        obtain ⟨byte, spelled, rfl⟩ := Option.map_eq_some_iff.mp found
        exact ⟨[[high, low]], .cons (pairValue?_eq_some_iff.mp spelled) .nil, by simp⟩
    | case2 high low rest byte later readLater spelled ih =>
        cases found
        obtain ⟨pairs, all, rfl⟩ := ih readLater
        have spells := pairValue?_eq_some_iff.mp spelled
        cases all with
        | nil => exact absurd rfl (ne_nil_of_pairs? readLater)
        | cons next others =>
            refine ⟨_, .cons spells (.cons next others), ?_⟩
            rw [List.intercalate_cons_cons]
            rfl
    | case3 => cases found
    | case4 => cases found
  · rintro ⟨filled, pairs, all, rfl⟩
    induction all with
    | nil => exact absurd rfl filled
    | @cons pair byte pairs bytes spells others ih =>
        obtain ⟨high, low, _, _, rfl, -⟩ := spells.exists_digits
        have read := pairValue?_eq_some_iff.mpr spells
        cases others with
        | nil => simp [pairs?, read]
        | cons next others =>
            rw [List.intercalate_cons_cons]
            simp [pairs?, read, ih]

theorem ofBytes?_eq_some_iff {bytes : Bytes} {address : Address} :
    ofBytes? bytes = some address ↔ bytes = address.bytes := by
  constructor
  · intro whole
    unfold ofBytes? at whole
    split at whole
    · cases whole
      rfl
    · cases whole
  · rintro rfl
    rfl

theorem parse_eq_ok_iff {text : String} {address : Address} :
    parse text = .ok address ↔ address.IsSpelledBy text.toList := by
  have read : (pairs? text.toList).bind ofBytes? = some address ↔
      address.IsSpelledBy text.toList := by
    simp [Option.bind_eq_some_iff, ofBytes?_eq_some_iff, pairs?_eq_some_iff, IsSpelledBy, bytes]
  rw [← read, parse]
  split
  · next found same => simp [same]
  · next nothing => simp [nothing]

theorem parse_eq_error_iff {text : String} {error : WireError} :
    parse text = .error error ↔
      error = .invalidAddress text ∧ ∀ address : Address, ¬address.IsSpelledBy text.toList := by
  simp only [← parse_eq_ok_iff]
  rw [parse]
  split
  · simp
  · simp [eq_comm]

theorem isSpelledBy_digits (address : Address) : address.IsSpelledBy address.digits := by
  refine ⟨address.bytes.map Hex.byteDigits, ?_, rfl⟩
  apply List.forall₂_map_left_iff.mpr
  apply List.forall₂_same.mpr
  intro byte _
  exact Hex.spellsByte_byteDigits byte

theorem parse_text (address : Address) : parse address.text = .ok address := by
  rw [parse_eq_ok_iff, text, String.toList_ofList]
  exact isSpelledBy_digits address

/-- Pairs of digits are shown in lower case. -/
theorem map_toLower_intercalate {pairs : List (List Char)} {bytes : Bytes}
    (all : List.Forall₂ Hex.SpellsByte pairs bytes) :
    ([':'].intercalate pairs).map Char.toLower = [':'].intercalate (bytes.map Hex.byteDigits) := by
  have colon : Char.toLower ':' = ':' := by decide
  induction all with
  | nil => rfl
  | cons spells others ih =>
      cases others with
      | nil => simpa using spells.map_toLower
      | cons next later =>
          rw [List.map_cons, List.map_cons, List.intercalate_cons_cons,
            List.intercalate_cons_cons, List.map_append, List.map_append, spells.map_toLower, ih,
            List.map_singleton, colon]
          rfl

/-- An address that was read is shown as its text in lower case. -/
theorem text_of_parse_eq_ok {text : String} {address : Address}
    (parsed : parse text = .ok address) : address.text = text.toLower := by
  obtain ⟨pairs, all, spelled⟩ := parse_eq_ok_iff.mp parsed
  apply String.toList_inj.mp
  rw [toList_toLower, spelled, map_toLower_intercalate all, Address.text, String.toList_ofList]
  rfl

theorem text_injective {left right : Address} (same : left.text = right.text) :
    left = right := by
  have parsed := parse_text left
  rw [same, parse_text right] at parsed
  exact (Except.ok.inj parsed).symm

/-- The address of everybody is the one that is shown as zeros. -/
theorem isBroadcast_iff {address : Address} :
    address.isBroadcast = true ↔ address.text = "00:00:00:00:00:00" := by
  have zeros : broadcast.text = "00:00:00:00:00:00" := by decide
  rw [isBroadcast, beq_iff_eq, ← zeros]
  constructor
  · rintro rfl
    rfl
  · exact text_injective

/-- Only the text of zeros is read as the address of everybody. -/
theorem isBroadcast_iff_of_parse_eq_ok {text : String} {address : Address}
    (parsed : parse text = .ok address) :
    address.isBroadcast = true ↔ text = "00:00:00:00:00:00" := by
  rw [isBroadcast_iff, text_of_parse_eq_ok parsed, Text.toLower_eq_zeros_iff]

end Address

end RadioMesh
