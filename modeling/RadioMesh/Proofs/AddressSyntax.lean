import RadioMesh.Proofs.Address
import RadioMesh.Proofs.Text.Numeral

/-!
# Which text is an address

Counting the bytes of a text, reading six of its parts between colons one by one and counting
the parts finds exactly the six pairs of digits with single colons between them that spell an
address.
-/

namespace RadioMesh

open Text

namespace Address

/-- The byte of a part.  Its digits are looked at first, since a number may have a plus sign. -/
def byteOfPart? (part : List Char) : Option UInt8 :=
  if (utf8 part).length = 2 ∧ (utf8 part).all Hex.readsDigit = true then
    ((natural? 16 (Numeral.dropPlus part)).filter (· < UInt8.size)).map UInt8.ofNat
  else none

/-- The bytes of the parts between colons.  Only as many parts are read as an address has
bytes, and the parts are counted after that. -/
def bytesOfParts? (text : List Char) : Option Bytes :=
  if (utf8 text).length = 3 * size - 1 then
    (((text.splitOn ':').take size).mapM byteOfPart?).filter fun _ =>
      (text.splitOn ':').length = size
  else none

/-- Reads an address check by check. -/
def parseByParts (text : String) : Except WireError Address :=
  match (bytesOfParts? text.toList).bind ofBytes? with
  | some address => .ok address
  | none => .error (.invalidAddress text)

theorem byteOfPart?_eq_some_iff {part : List Char} {byte : UInt8} :
    byteOfPart? part = some byte ↔ Hex.SpellsByte part byte := by
  constructor
  · intro found
    rw [byteOfPart?, Option.ite_none_right_eq_some] at found
    obtain ⟨⟨two, digits⟩, found⟩ := found
    obtain ⟨value, counted, rfl⟩ := Option.map_eq_some_iff.mp found
    obtain ⟨read, small⟩ := Option.filter_eq_some_iff.mp counted
    have unsigned : '+' ∉ part := by
      have plus : Hex.readsDigit 43 = false := by decide
      intro inside
      have encoded : (43 : UInt8) ∈ utf8 part :=
        List.mem_flatMap.mpr ⟨'+', inside, List.mem_singleton.mpr rfl⟩
      rw [List.all_eq_true.mp digits 43 encoded] at plus
      cases plus
    rw [Numeral.dropPlus_of_notMem unsigned, natural?_eq_some_iff] at read
    rw [utf8_of_digits read.2.mem, List.length_map] at two
    rw [decide_eq_true_eq] at small
    refine ⟨two, ?_⟩
    rw [UInt8.toNat_ofNat_of_lt' small]
    exact read.2
  · intro spells
    obtain ⟨two, denotes⟩ := spells
    have plus : '+' ∉ lowerDigits ++ upperDigits := by decide
    have unsigned : '+' ∉ part := fun inside => plus (denotes.mem '+' inside)
    have filled : part ≠ [] := List.ne_nil_of_length_pos (by omega)
    have digits : (utf8 part).all Hex.readsDigit = true := by
      rw [utf8_of_digits denotes.mem, List.all_map, List.all_eq_true]
      have each : (lowerDigits ++ upperDigits).all
          (fun character => Hex.readsDigit (UInt8.ofNat character.toNat)) = true := by
        decide
      intro character member
      exact List.all_eq_true.mp each character (denotes.mem character member)
    rw [byteOfPart?, if_pos ⟨by rw [utf8_of_digits denotes.mem, List.length_map, two], digits⟩,
      Numeral.dropPlus_of_notMem unsigned, natural?_eq_some_iff.mpr ⟨filled, denotes⟩]
    simp [Option.filter, byte.toNat_lt]

theorem mapM_eq_some_iff {α β : Type} {read : α → Option β} {items : List α} {values : List β} :
    items.mapM read = some values ↔
      List.Forall₂ (fun item value => read item = some value) items values := by
  induction items generalizing values with
  | nil => cases values <;> simp
  | cons item items ih =>
      rw [List.mapM_cons]
      cases values with
      | nil => cases read item <;> cases items.mapM read <;> simp
      | cons value values =>
          rw [List.forall₂_cons, ← ih]
          cases read item <;> cases items.mapM read <;> simp

theorem length_utf8_intercalate {pairs : List (List Char)} {bytes : Bytes}
    (all : List.Forall₂ Hex.SpellsByte pairs bytes) :
    (utf8 ([':'].intercalate pairs)).length = 3 * pairs.length - 1 := by
  induction all with
  | nil => rfl
  | @cons pair byte pairs bytes spells others ih =>
      have two : (utf8 pair).length = 2 := by
        rw [utf8_of_digits spells.2.mem, List.length_map, spells.1]
      cases others with
      | nil => simpa using two
      | @cons next nextByte later laterBytes nextSpells laterSpells =>
          rw [List.intercalate_cons_cons]
          simp only [utf8, List.flatMap_append, List.length_append] at two ih ⊢
          rw [two, ih]
          simp [String.utf8EncodeChar]
          omega

theorem splitOn_intercalate {pairs : List (List Char)} {bytes : Bytes}
    (all : List.Forall₂ Hex.SpellsByte pairs bytes) (filled : pairs ≠ []) :
    ([':'].intercalate pairs).splitOn ':' = pairs := by
  have colon : ':' ∉ lowerDigits ++ upperDigits := by decide
  have without : ∀ pair ∈ pairs, ':' ∉ pair := by
    clear filled
    induction all with
    | nil => exact List.forall_mem_nil _
    | cons spells others ih =>
        exact List.forall_mem_cons.mpr ⟨fun inside => colon (spells.2.mem ':' inside), ih⟩
  exact List.splitOn_intercalate ':' without filled

theorem bytesOfParts?_eq_some_iff {text : List Char} {bytes : Bytes} :
    bytesOfParts? text = some bytes ↔
      bytes.length = size ∧ ∃ pairs, List.Forall₂ Hex.SpellsByte pairs bytes ∧
        text = [':'].intercalate pairs := by
  have eachPart : ∀ pairs : List (List Char),
      pairs.mapM byteOfPart? = some bytes ↔ List.Forall₂ Hex.SpellsByte pairs bytes := by
    intro pairs
    simp only [mapM_eq_some_iff, byteOfPart?_eq_some_iff]
  constructor
  · intro found
    rw [bytesOfParts?, Option.ite_none_right_eq_some, Option.filter_eq_some_iff,
      decide_eq_true_eq] at found
    obtain ⟨-, read, six⟩ := found
    rw [List.take_of_length_le (by omega), eachPart] at read
    exact ⟨read.length_eq ▸ six, _, read, (List.intercalate_splitOn ':').symm⟩
  · rintro ⟨six, pairs, all, rfl⟩
    have count : pairs.length = size := all.length_eq.trans six
    have filled : pairs ≠ [] := by
      rintro rfl
      cases count
    have parts := splitOn_intercalate all filled
    rw [bytesOfParts?, parts, if_pos (by rw [length_utf8_intercalate all, count]),
      List.take_of_length_le (by omega), (eachPart pairs).mpr all]
    simp [Option.filter, count]

theorem parseByParts_eq (text : String) : parseByParts text = parse text := by
  have bound : ∀ address : Address,
      (bytesOfParts? text.toList).bind ofBytes? = some address ↔
        (pairs? text.toList).bind ofBytes? = some address := by
    intro address
    simp [Option.bind_eq_some_iff, ofBytes?_eq_some_iff, bytesOfParts?_eq_some_iff,
      pairs?_eq_some_iff, bytes, size]
  have same := Option.ext bound
  unfold parseByParts parse
  cases found : (pairs? text.toList).bind ofBytes? with
  | none => simp only [same, found]
  | some address => simp only [same, found]

/-- Text is read as an address exactly when six pairs of digits with single colons between them
spell it, and otherwise the error carries the text.  The checks one by one come to the same.
What is shown of an address is read as this address, and an address that was read is shown as
its text in lower case, so two texts give one address exactly when they differ in case only. -/
theorem parse_reads_six_pairs (text : String) :
    parseByParts text = parse text ∧
    (∀ address, parse text = .ok address ↔ address.IsSpelledBy text.toList) ∧
    (∀ error, parse text = .error error ↔
      error = .invalidAddress text ∧ ∀ address : Address, ¬address.IsSpelledBy text.toList) ∧
    (∀ address : Address, parse address.text = .ok address) ∧
    (∀ address, parse text = .ok address → address.text = text.toLower) ∧
    ∀ other address otherAddress, parse text = .ok address → parse other = .ok otherAddress →
      (address = otherAddress ↔ text.toLower = other.toLower) := by
  refine ⟨parseByParts_eq text, fun _ => parse_eq_ok_iff, fun _ => parse_eq_error_iff,
    parse_text, fun _ => text_of_parse_eq_ok, ?_⟩
  intro other address otherAddress parsed otherParsed
  rw [← text_of_parse_eq_ok parsed, ← text_of_parse_eq_ok otherParsed]
  constructor
  · rintro rfl
    rfl
  · exact text_injective

end Address

end RadioMesh
