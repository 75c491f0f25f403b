import RadioMesh.Proofs.Text.Digits
import RadioMesh.Text.HexInput
import Mathlib.Data.List.Basic
import Mathlib.Data.List.Induction
import Mathlib.Data.List.TakeWhile

/-!
# Bytes spelled by digits

Two digits of base sixteen, each in either case, spell a byte.  Text is decoded exactly when
it consists of such pairs.  Any other text has one flaw: an odd number of bytes, or else
its first byte that is no digit.
-/

namespace RadioMesh.Text

theorem utf8EncodeChar_of_lt {character : Char} (ascii : character.toNat < 128) :
    String.utf8EncodeChar character = [UInt8.ofNat character.toNat] := by
  have small : character.val.toNat ≤ 127 := Nat.le_of_lt_succ ascii
  simp only [String.utf8EncodeChar, small, if_true]
  rfl

theorem utf8_injective {left right : List Char} (same : utf8 left = utf8 right) :
    left = right := by
  have encoded : left.utf8Encode = right.utf8Encode := congrArg List.toByteArray same
  rw [← String.toByteArray_ofList, ← String.toByteArray_ofList, String.toByteArray_inj] at encoded
  have texts := congrArg String.toList encoded
  rwa [String.toList_ofList, String.toList_ofList] at texts

theorem toNat_lt_of_mem_digits {character : Char}
    (member : character ∈ lowerDigits ++ upperDigits) : character.toNat < 128 := by
  have each : (lowerDigits ++ upperDigits).all (·.toNat < 128) = true := by decide
  exact of_decide_eq_true (List.all_eq_true.mp each character member)

theorem utf8_of_digits {digits : List Char}
    (all : ∀ character ∈ digits, character ∈ lowerDigits ++ upperDigits) :
    utf8 digits = digits.map fun character => UInt8.ofNat character.toNat := by
  induction digits with
  | nil => rfl
  | cons character digits ih =>
      obtain ⟨first, later⟩ := List.forall_mem_cons.mp all
      have single := utf8EncodeChar_of_lt (toNat_lt_of_mem_digits first)
      have rest := ih later
      rw [utf8] at rest ⊢
      rw [List.flatMap_cons, single, rest]
      rfl

namespace Hex

/-- Two digits that spell a byte, the high one first. -/
def SpellsByte (pair : List Char) (byte : UInt8) : Prop :=
  pair.length = 2 ∧ Denotes 16 pair byte.toNat

/-- Pairs of digits, and the bytes that they spell. -/
inductive Spells : List Char → Bytes → Prop where
  | nil : Spells [] []
  | cons {pair digits : List Char} {byte : UInt8} {bytes : Bytes} :
      SpellsByte pair byte →
      Spells digits bytes →
      Spells (pair ++ digits) (byte :: bytes)

/-- A byte that is a digit all by itself. -/
def IsDigitByte (byte : UInt8) : Prop :=
  ∃ character value, IsDigitFor 16 character value ∧ String.utf8EncodeChar character = [byte]

/-- The flaw of text that consists of no pairs of digits. -/
inductive Refuses : Bytes → Flaw → Prop where
  | oddLength {text : Bytes} :
      text.length % 2 = 1 →
      Refuses text .oddLength
  | notDigit {front rest : Bytes} {stray : UInt8} :
      (front ++ stray :: rest).length % 2 = 0 →
      (∀ byte ∈ front, IsDigitByte byte) →
      ¬IsDigitByte stray →
      Refuses (front ++ stray :: rest) (.notDigit stray front.length)

theorem SpellsByte.exists_digits {pair : List Char} {byte : UInt8}
    (spells : SpellsByte pair byte) :
    ∃ high low highValue lowValue, pair = [high, low] ∧ IsDigitFor 16 high highValue ∧
      IsDigitFor 16 low lowValue ∧ 16 * highValue + lowValue = byte.toNat := by
  obtain ⟨two, denotes⟩ := spells
  generalize byte.toNat = value at denotes
  obtain ⟨high, low, rfl⟩ := List.length_eq_two.mp two
  cases denotes with
  | @cons _ highValue _ _ first later =>
      cases later with
      | @cons _ lowValue _ _ second nothing =>
          cases nothing
          exact ⟨high, low, highValue, lowValue, rfl, first, second, by simp; omega⟩

theorem spellsByte_of_digits {high low : Char} {highValue lowValue : Nat} {byte : UInt8}
    (first : IsDigitFor 16 high highValue) (second : IsDigitFor 16 low lowValue)
    (sum : 16 * highValue + lowValue = byte.toNat) : SpellsByte [high, low] byte := by
  have denotes := Denotes.cons first (Denotes.cons second Denotes.nil)
  refine ⟨rfl, ?_⟩
  convert denotes using 1
  simp
  omega

theorem Spells.mem {digits : List Char} {bytes : Bytes} (spells : Spells digits bytes) :
    ∀ character ∈ digits, character ∈ lowerDigits ++ upperDigits := by
  induction spells with
  | nil => exact List.forall_mem_nil _
  | cons spelled later ih => exact List.forall_mem_append.mpr ⟨spelled.2.mem, ih⟩

theorem Spells.length_eq {digits : List Char} {bytes : Bytes} (spells : Spells digits bytes) :
    digits.length = 2 * bytes.length := by
  induction spells with
  | nil => rfl
  | cons spelled later ih =>
      rw [List.length_append, spelled.1, ih, List.length_cons]
      omega

theorem spellsByte_byteDigits (byte : UInt8) : SpellsByte (byteDigits byte) byte := by
  have bound := byte.toNat_lt
  have high : digitValue? 16 (Nat.digitChar (byte.toNat / 16)) = some (byte.toNat / 16) :=
    digitValue?_digitChar (by omega)
  have low : digitValue? 16 (Nat.digitChar (byte.toNat % 16)) = some (byte.toNat % 16) :=
    digitValue?_digitChar (by omega)
  exact spellsByte_of_digits (digitValue?_eq_some_iff.mp high) (digitValue?_eq_some_iff.mp low)
    (by omega)

/-- What is printed of some bytes spells them. -/
theorem spells_encode (bytes : Bytes) : Spells (encode bytes) bytes := by
  induction bytes with
  | nil => exact .nil
  | cons byte bytes ih => exact .cons (spellsByte_byteDigits byte) ih

theorem digit?_eq_some_iff {byte : UInt8} {value : Nat} :
    digit? byte = some value ↔
      ∃ character, IsDigitFor 16 character value ∧ String.utf8EncodeChar character = [byte] := by
  have bound := byte.toNat_lt
  constructor
  · intro found
    have digit := digitValue?_eq_some_iff.mp found
    have code : (Char.ofNat byte.toNat).toNat = byte.toNat := by
      have valid : byte.toNat.isValidChar := .inl (by omega)
      rw [Char.ofNat, dif_pos valid]
      rfl
    refine ⟨_, digit, ?_⟩
    rw [utf8EncodeChar_of_lt (toNat_lt_of_mem_digits digit.mem), code, UInt8.ofNat_toNat]
  · rintro ⟨character, digit, encoded⟩
    have ascii := toNat_lt_of_mem_digits digit.mem
    rw [utf8EncodeChar_of_lt ascii] at encoded
    cases encoded
    rw [digit?, UInt8.toNat_ofNat_of_lt' (by change _ < 256; omega), Char.ofNat_toNat]
    exact digitValue?_eq_some_iff.mpr digit

/-- Whether a byte is read as a digit. -/
def readsDigit (byte : UInt8) : Bool := (digit? byte).isSome

theorem readsDigit_iff {byte : UInt8} : readsDigit byte = true ↔ IsDigitByte byte := by
  rw [readsDigit, Option.isSome_iff_exists]
  constructor
  · rintro ⟨value, found⟩
    obtain ⟨character, digit, encoded⟩ := digit?_eq_some_iff.mp found
    exact ⟨character, value, digit, encoded⟩
  · rintro ⟨character, value, digit, encoded⟩
    exact ⟨value, digit?_eq_some_iff.mpr ⟨character, digit, encoded⟩⟩

theorem pairs_of_spells {digits : List Char} {bytes : Bytes} (spells : Spells digits bytes)
    (index : Nat) : pairs index (utf8 digits) = .ok bytes := by
  induction spells generalizing index with
  | nil => rfl
  | @cons pair digits byte bytes spelled later ih =>
      obtain ⟨high, low, highValue, lowValue, rfl, first, second, sum⟩ := spelled.exists_digits
      have highByte := utf8EncodeChar_of_lt (toNat_lt_of_mem_digits first.mem)
      have lowByte := utf8EncodeChar_of_lt (toNat_lt_of_mem_digits second.mem)
      have split : utf8 ([high, low] ++ digits) =
          UInt8.ofNat high.toNat :: UInt8.ofNat low.toNat :: utf8 digits := by
        simp [utf8, highByte, lowByte]
      rw [split, pairs, digit?_eq_some_iff.mpr ⟨high, first, highByte⟩,
        digit?_eq_some_iff.mpr ⟨low, second, lowByte⟩, ih]
      simp [sum]

theorem digit?_eq_none {byte : UInt8} (other : ¬IsDigitByte byte) : digit? byte = none := by
  rw [← readsDigit_iff, Bool.not_eq_true, readsDigit, Option.isSome_eq_false_iff] at other
  exact Option.isNone_iff_eq_none.mp other

theorem exists_digit? {byte : UInt8} (digit : IsDigitByte byte) :
    ∃ value, digit? byte = some value :=
  Option.isSome_iff_exists.mp (readsDigit_iff.mpr digit)

theorem pairs_of_stray {front rest : Bytes} {stray : UInt8} (index : Nat)
    (even : (front ++ stray :: rest).length % 2 = 0)
    (digits : ∀ byte ∈ front, IsDigitByte byte) (other : ¬IsDigitByte stray) :
    pairs index (front ++ stray :: rest) = .error (.notDigit stray (index + front.length)) := by
  have unread := digit?_eq_none other
  induction front using List.twoStepInduction generalizing index with
  | nil =>
      cases rest with
      | nil => cases even
      | cons next rest => simp [pairs, unread]
  | singleton byte =>
      obtain ⟨value, read⟩ := exists_digit? (digits byte List.mem_cons_self)
      simp [pairs, read, unread]
  | cons_cons first second front ih _ =>
      obtain ⟨firstDigit, secondDigit, later⟩ :
          IsDigitByte first ∧ IsDigitByte second ∧ ∀ byte ∈ front, IsDigitByte byte := by
        simpa using digits
      obtain ⟨high, firstRead⟩ := exists_digit? firstDigit
      obtain ⟨low, secondRead⟩ := exists_digit? secondDigit
      have rest := ih (index + 2) (by simp at even ⊢; omega) later
      have place : index + 2 + front.length = index + (first :: second :: front).length := by
        simp
        omega
      rw [List.cons_append, List.cons_append, pairs, firstRead, secondRead]
      simp only [rest, place]

theorem exists_spells_of_even {text : Bytes} (even : text.length % 2 = 0)
    (all : ∀ byte ∈ text, IsDigitByte byte) :
    ∃ digits bytes, Spells digits bytes ∧ utf8 digits = text := by
  induction text using List.twoStepInduction with
  | nil => exact ⟨[], [], .nil, rfl⟩
  | singleton byte => cases even
  | cons_cons first second text ih _ =>
      obtain ⟨⟨high, highValue, highDigit, highByte⟩, ⟨low, lowValue, lowDigit, lowByte⟩, later⟩ :
          IsDigitByte first ∧ IsDigitByte second ∧ ∀ byte ∈ text, IsDigitByte byte := by
        simpa using all
      obtain ⟨digits, bytes, spells, rfl⟩ := ih (by simp at even ⊢; omega) later
      have highSmall := highDigit.1
      have lowSmall := lowDigit.1
      have sum : 16 * highValue + lowValue = (UInt8.ofNat (16 * highValue + lowValue)).toNat := by
        rw [UInt8.toNat_ofNat_of_lt' (by change _ < 256; omega)]
      refine ⟨_, _, .cons (spellsByte_of_digits highDigit lowDigit sum) spells, ?_⟩
      simp [utf8, highByte, lowByte]

/-- Text either spells some bytes or has a flaw. -/
theorem spells_or_refuses (text : Bytes) :
    (∃ digits bytes, Spells digits bytes ∧ utf8 digits = text) ∨ ∃ flaw, Refuses text flaw := by
  by_cases even : text.length % 2 = 0
  · have whole := List.takeWhile_append_dropWhile (p := readsDigit) (l := text)
    have front : ∀ byte ∈ text.takeWhile readsDigit, IsDigitByte byte := by
      intro byte member
      exact readsDigit_iff.mp (List.mem_takeWhile_imp member)
    cases behind : text.dropWhile readsDigit with
    | nil =>
        rw [behind, List.append_nil] at whole
        exact .inl (exists_spells_of_even even (whole ▸ front))
    | cons stray rest =>
        have stopped := List.head?_dropWhile_not readsDigit text
        rw [behind] at stopped whole
        have other : ¬IsDigitByte stray := by
          rw [← readsDigit_iff, Bool.not_eq_true]
          exact stopped
        rw [← whole] at even ⊢
        exact .inr ⟨_, .notDigit even front other⟩
  · exact .inr ⟨_, .oddLength (by omega)⟩

/-- A decoder that takes pairs of digits and names the flaw of any other text. -/
structure Documented (decoder : Bytes → Except Flaw Bytes) : Prop where
  ok_of_spells : ∀ {digits bytes}, Spells digits bytes → decoder (utf8 digits) = .ok bytes
  error_of_refuses : ∀ {text flaw}, Refuses text flaw → decoder text = .error flaw

theorem documented_decode : Documented decode := by
  constructor
  · intro digits bytes spells
    have even : (utf8 digits).length % 2 = 0 := by
      rw [utf8_of_digits spells.mem, List.length_map, spells.length_eq]
      omega
    rw [decode, if_neg (by omega), pairs_of_spells spells 0]
  · intro text flaw refuses
    cases refuses with
    | oddLength odd => rw [decode, if_pos odd]
    | notDigit even front other =>
        rw [decode, if_neg (by omega), pairs_of_stray 0 even front other, Nat.zero_add]

namespace Documented

variable {decoder : Bytes → Except Flaw Bytes}

theorem eq_ok_iff (documented : Documented decoder) {digits : List Char} {bytes : Bytes} :
    decoder (utf8 digits) = .ok bytes ↔ Spells digits bytes := by
  refine ⟨?_, documented.ok_of_spells⟩
  intro decoded
  rcases spells_or_refuses (utf8 digits) with ⟨others, found, spells, same⟩ | ⟨flaw, refuses⟩
  · cases utf8_injective same
    rw [documented.ok_of_spells spells] at decoded
    cases decoded
    exact spells
  · rw [documented.error_of_refuses refuses] at decoded
    cases decoded

theorem eq_error_iff (documented : Documented decoder) {text : Bytes} {flaw : Flaw} :
    decoder text = .error flaw ↔ Refuses text flaw := by
  refine ⟨?_, documented.error_of_refuses⟩
  intro failed
  rcases spells_or_refuses text with ⟨digits, bytes, spells, rfl⟩ | ⟨other, refuses⟩
  · rw [documented.ok_of_spells spells] at failed
    cases failed
  · rw [documented.error_of_refuses refuses] at failed
    cases failed
    exact refuses

/-- What is documented leaves a decoder no choice. -/
theorem eq_decode (documented : Documented decoder) : decoder = decode := by
  funext text
  rcases spells_or_refuses text with ⟨digits, bytes, spells, rfl⟩ | ⟨flaw, refuses⟩
  · rw [documented.ok_of_spells spells, documented_decode.ok_of_spells spells]
  · rw [documented.error_of_refuses refuses, documented_decode.error_of_refuses refuses]

end Documented

end Hex

end RadioMesh.Text
