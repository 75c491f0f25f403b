import RadioMesh.Conversion
import RadioMesh.Proofs.Text.Blank
import RadioMesh.Proofs.Text.Spelling

/-!
# Bytes on the command line, read exactly

Text gives bytes exactly when pairs of digits are all that is left of it without the blanks
around it, one marker in front and the separators.  So separators anywhere behind the marker,
blanks around the text and the case of its digits make no difference, and what a view shows
of some bytes is read as these bytes.
-/

namespace RadioMesh

namespace Text

/-- A digit in either case neither is dropped on the way to the decoder nor looks like a marker. -/
theorem kept_of_mem_digits {character : Char} (member : character ∈ lowerDigits ++ upperDigits) :
    isBlank character = false ∧ HexInput.isSeparator character = false ∧ character ≠ 'x' := by
  have each : (lowerDigits ++ upperDigits).all (fun character =>
      isBlank character = false ∧ HexInput.isSeparator character = false ∧ character ≠ 'x') =
        true := by
    decide
  exact of_decide_eq_true (List.all_eq_true.mp each character member)

namespace HexInput

def separators : List Char := [' ', ':', '-', '_']

theorem isSeparator_eq (character : Char) :
    isSeparator character = decide (character ∈ separators) := by
  simp [isSeparator, separators, Bool.or_assoc]

theorem isSeparator_of_mem {character : Char} (member : character ∈ separators) :
    isSeparator character = true := by
  rw [isSeparator_eq, decide_eq_true member]

/-- Text without the one marker that may stand in front of it. -/
inductive Unmarks : List Char → List Char → Prop where
  | marked {rest : List Char} :
      Unmarks ('0' :: 'x' :: rest) rest
  | unmarked {text : List Char} :
      ¬['0', 'x'] <+: text →
      Unmarks text text

/-- What is left of a text for digits. -/
def StripsTo (text digits : List Char) : Prop :=
  ∃ core bare, TrimsTo text core ∧ Unmarks core bare ∧
    digits = bare.filter (· ∉ separators)

/-- Digits, and a text that consists of them with separators anywhere between. -/
inductive Separated : List Char → List Char → Prop where
  | nil : Separated [] []
  | digit {character : Char} {digits text : List Char} :
      Separated digits text →
      Separated (character :: digits) (character :: text)
  | separator {character : Char} {digits text : List Char} :
      character ∈ separators →
      Separated digits text →
      Separated digits (character :: text)

theorem unmarks_dropMarker (text : List Char) : Unmarks text (dropMarker text) := by
  unfold dropMarker
  split
  · exact .marked
  · next other =>
      refine .unmarked ?_
      rintro ⟨rest, rfl⟩
      exact other rest rfl

theorem Unmarks.dropMarker_eq {text bare : List Char} (unmarks : Unmarks text bare) :
    dropMarker text = bare := by
  cases unmarks with
  | marked => rfl
  | unmarked other =>
      unfold dropMarker
      split
      · next rest => exact absurd (List.prefix_append ['0', 'x'] rest) other
      · rfl

/-- What is left of a text for digits is one text only. -/
theorem stripsTo_iff {text : String} {left : List Char} :
    StripsTo text.toList left ↔ left = digits text := by
  simp only [digits, isSeparator_eq, ← decide_not]
  constructor
  · rintro ⟨core, bare, trims, unmarks, rfl⟩
    rw [trims.trim_eq, unmarks.dropMarker_eq]
  · rintro rfl
    exact ⟨_, _, trimsTo_trim _, unmarks_dropMarker _, rfl⟩

theorem Separated.mem {digits text : List Char} (separated : Separated digits text) :
    ∀ character ∈ text, character ∈ digits ∨ isSeparator character = true := by
  induction separated with
  | nil => exact List.forall_mem_nil _
  | digit later ih =>
      refine List.forall_mem_cons.mpr ⟨.inl List.mem_cons_self, ?_⟩
      intro character member
      exact (ih character member).imp_left (List.mem_cons_of_mem _)
  | separator member later ih =>
      exact List.forall_mem_cons.mpr ⟨.inr (isSeparator_of_mem member), ih⟩

theorem Separated.filter_eq {digits text : List Char} (separated : Separated digits text)
    (plain : ∀ character ∈ digits, isSeparator character = false) :
    text.filter (fun character => !isSeparator character) = digits := by
  induction separated with
  | nil => rfl
  | digit later ih =>
      obtain ⟨first, others⟩ := List.forall_mem_cons.mp plain
      rw [List.filter_cons_of_pos (by simp [first]), ih others]
  | separator member later ih =>
      rw [List.filter_cons_of_neg (by simp [isSeparator_of_mem member]), ih plain]

theorem separated_self (digits : List Char) : Separated digits digits := by
  induction digits with
  | nil => exact .nil
  | cons character digits ih => exact .digit ih

theorem unmarks_self {text : List Char} (without : 'x' ∉ text) : Unmarks text text := by
  refine .unmarked ?_
  rintro ⟨rest, rfl⟩
  exact without (by simp)

/-- Blanks around a text that is marked do not reach the marker. -/
theorem exists_of_surrounded_marker {left core right text : List Char}
    (whole : '0' :: 'x' :: text = left ++ core ++ right)
    (blankLeft : ∀ character ∈ left, isBlank character = true)
    (blankRight : ∀ character ∈ right, isBlank character = true) :
    left = [] ∧ ∃ rest, core = '0' :: 'x' :: rest ∧ text = rest ++ right := by
  have zero : isBlank '0' ≠ true := by decide
  have marker : isBlank 'x' ≠ true := by decide
  cases left with
  | cons character left =>
      obtain ⟨rfl, _⟩ := List.cons.inj whole
      exact absurd (blankLeft '0' List.mem_cons_self) zero
  | nil =>
      refine ⟨rfl, ?_⟩
      match core with
      | [] =>
          rw [List.nil_append, List.nil_append] at whole
          exact absurd (blankRight '0' (whole ▸ List.mem_cons_self)) zero
      | [character] =>
          rw [List.nil_append, List.singleton_append, List.cons.injEq] at whole
          exact absurd (blankRight 'x' (whole.2 ▸ List.mem_cons_self)) marker
      | first :: second :: rest =>
          simp only [List.nil_append, List.cons_append, List.cons.injEq] at whole
          obtain ⟨rfl, rfl, behind⟩ := whole
          exact ⟨rest, rfl, behind⟩

section

variable {digits text : List Char} (separated : Separated digits text)
  (all : ∀ character ∈ digits, character ∈ lowerDigits ++ upperDigits)

include separated all

theorem Separated.not_marker : 'x' ∉ text := by
  intro member
  rcases separated.mem 'x' member with digit | separator
  · exact (kept_of_mem_digits (all 'x' digit)).2.2 rfl
  · cases separator

/-- The blanks in a separated text are separators. -/
theorem Separated.filter_blanks {blanks : List Char} (inside : blanks ⊆ text)
    (blank : ∀ character ∈ blanks, isBlank character = true) :
    blanks.filter (fun character => !isSeparator character) = [] := by
  apply List.filter_eq_nil_iff.mpr
  intro character member
  rcases separated.mem character (inside member) with digit | separator
  · have visible := (kept_of_mem_digits (all character digit)).1
    rw [blank character member] at visible
    cases visible
  · simp [separator]

/-- Neither separators nor blanks nor a marker change what is left of a text for digits. -/
theorem digits_of_separated {before marker after : List Char}
    (blankBefore : ∀ character ∈ before, isBlank character = true)
    (marks : marker = [] ∨ marker = ['0', 'x'])
    (blankAfter : ∀ character ∈ after, isBlank character = true) :
    HexInput.digits (String.ofList (before ++ (marker ++ text) ++ after)) = digits := by
  have plain : ∀ character ∈ digits, isSeparator character = false := by
    intro character member
    exact (kept_of_mem_digits (all character member)).2.1
  have kept := separated.filter_eq plain
  have unmarked := separated.not_marker all
  obtain ⟨⟨left, right, whole, blankLeft, blankRight⟩, -, -⟩ := trimsTo_trim (marker ++ text)
  rw [HexInput.digits, String.toList_ofList, trim_surrounded blankBefore blankAfter]
  generalize trim (marker ++ text) = core at whole
  rcases marks with rfl | rfl
  · rw [List.nil_append] at whole
    subst whole
    have unmarks : Unmarks core core := by
      apply unmarks_self
      intro member
      exact unmarked (by simp [member])
    have nothingLeft := separated.filter_blanks all
      (fun _ member => by simp [member]) blankLeft
    have nothingRight := separated.filter_blanks all
      (fun _ member => by simp [member]) blankRight
    rw [List.filter_append, List.filter_append, nothingLeft, nothingRight, List.nil_append,
      List.append_nil] at kept
    rw [unmarks.dropMarker_eq, kept]
  · obtain ⟨rfl, rest, rfl, rfl⟩ := exists_of_surrounded_marker whole blankLeft blankRight
    have nothingRight := separated.filter_blanks all
      (fun _ member => by simp [member]) blankRight
    rw [List.filter_append, nothingRight, List.append_nil] at kept
    rw [dropMarker, kept]

end

end HexInput

end Text

namespace View

open Text

theorem hexByte_eq (byte : UInt8) :
    hexByte byte = String.ofList ('0' :: 'x' :: Hex.encode [byte]) := by
  have bound := byte.toNat_lt
  have digits : (hexadecimal 2 byte.toNat).toList = Hex.byteDigits byte := by
    rw [toList_hexadecimal_succ, toList_hexadecimal_one (by omega)]
    rfl
  apply String.toList_inj.mp
  simp [hexByte, digits, Hex.encode]

theorem hexWord_eq (word : UInt16) :
    hexWord word =
      String.ofList ('0' :: 'x' :: Hex.encode [Word16.high word, Word16.low word]) := by
  have bound := word.toNat_lt
  have digits : (hexadecimal 4 word.toNat).toList =
      Hex.byteDigits (Word16.high word) ++ Hex.byteDigits (Word16.low word) := by
    have first : word.toNat / 16 / 16 / 16 = word.toNat / 256 / 16 := by omega
    have second : word.toNat / 16 / 16 % 16 = word.toNat / 256 % 16 := by omega
    have third : word.toNat / 16 % 16 = word.toNat % 256 / 16 := by omega
    have fourth : word.toNat % 16 = word.toNat % 256 % 16 := by omega
    rw [toList_hexadecimal_succ, toList_hexadecimal_succ, toList_hexadecimal_succ,
      toList_hexadecimal_one (by omega), first, second, third, fourth, Hex.byteDigits,
      Hex.byteDigits, Word16.toNat_high, Word16.toNat_low]
    rfl
  apply String.toList_inj.mp
  simp [hexWord, digits, Hex.encode]

/-- The byte strings that a view shows as digits, by the names under which they stand. -/
def byteStrings : View → List (String × Bytes)
  | .address device => [("wire", device.encode)]
  | .frame envelope => [("data", envelope.data)]
  | .hub message _ => [("payload", message.payload)]
  | .config record => [("payload", record.payload)]
  | .tracked _ => []
  | .trackedList _ => []
  | .command message => [("payload", message.payload)]
  | .encoded _ bytes => [("hex", bytes)]
  | .time .. => []

/-- Digits stand for a byte string both where programs and where people look for it. -/
theorem shows_of_mem_byteStrings {view : View} {name : String} {bytes : Bytes}
    (member : (name, bytes) ∈ view.byteStrings) :
    (name, .string (Hex.text bytes)) ∈ view.members ∧ (name, Hex.text bytes) ∈ view.rows := by
  cases view with
  | tracked device => cases member
  | trackedList devices => cases member
  | time reference stamp utcOffset result => cases member
  | _ =>
      cases List.mem_singleton.mp member
      simp [members, rows]

end View

namespace Conversion

open Text HexInput

theorem bytesOf_eq_ok_iff {text : String} {bytes : Bytes} :
    bytesOf text = .ok bytes ↔ Hex.Spells (digits text) bytes := by
  rw [← Hex.documented_decode.eq_ok_iff, bytesOf, HexInput.parse]
  cases Hex.decode (utf8 (digits text)) <;> simp [Except.mapError]

theorem bytesOf_eq_error_iff {text : String} {failure : Failure} :
    bytesOf text = .error failure ↔
      ∃ flaw, Hex.Refuses (utf8 (digits text)) flaw ∧ failure = .hexInput text flaw := by
  simp only [← Hex.documented_decode.eq_error_iff]
  rw [bytesOf, HexInput.parse]
  cases Hex.decode (utf8 (digits text)) <;> simp [Except.mapError, eq_comm]

theorem bytesOf_of_separated {before marker text after digits : List Char} {bytes : Bytes}
    (blankBefore : ∀ character ∈ before, isBlank character = true)
    (marks : marker = [] ∨ marker = ['0', 'x'])
    (spells : Hex.Spells digits bytes) (separated : Separated digits text)
    (blankAfter : ∀ character ∈ after, isBlank character = true) :
    bytesOf (String.ofList (before ++ (marker ++ text) ++ after)) = .ok bytes := by
  rw [bytesOf_eq_ok_iff, digits_of_separated separated spells.mem blankBefore marks blankAfter]
  exact spells

/-- What is printed of some bytes, with or without a marker, is read as these bytes. -/
theorem bytesOf_printed {marker : List Char} (marks : marker = [] ∨ marker = ['0', 'x'])
    (bytes : Bytes) : bytesOf (String.ofList (marker ++ Hex.encode bytes)) = .ok bytes := by
  have read : bytesOf (String.ofList ([] ++ (marker ++ Hex.encode bytes) ++ [])) = .ok bytes :=
    bytesOf_of_separated (List.forall_mem_nil _) marks (Hex.spells_encode bytes)
      (separated_self _) (List.forall_mem_nil _)
  simpa using read

/-- Text gives bytes exactly when pairs of digits that spell them are left of it, and otherwise
exits with 64 for an odd number of bytes or else the first byte that is no digit; any decoder
that does what is documented leads to the same.  So digits in either case, with separators
anywhere, with or without a marker and with blanks around them, give the bytes that they spell,
and whatever a view shows as digits gives the bytes that it is about. -/
theorem bytesOf_reads_separated_digits :
    (∀ text : String,
      (∀ left, StripsTo text.toList left ↔ left = digits text) ∧
      (∀ bytes, bytesOf text = .ok bytes ↔ Hex.Spells (digits text) bytes) ∧
      (∀ failure, bytesOf text = .error failure ↔
        ∃ flaw, Hex.Refuses (utf8 (digits text)) flaw ∧ failure = .hexInput text flaw) ∧
      (∀ failure, bytesOf text = .error failure → failure.exitCode = 64)) ∧
    (∀ decoder, Hex.Documented decoder ↔ decoder = Hex.decode) ∧
    (∀ before marker text after digits bytes,
      (∀ character ∈ before, isBlank character = true) →
      (marker = [] ∨ marker = ['0', 'x']) →
      Hex.Spells digits bytes →
      Separated digits text →
      (∀ character ∈ after, isBlank character = true) →
      bytesOf (String.ofList (before ++ (marker ++ text) ++ after)) = .ok bytes) ∧
    (∀ (view : View) name bytes, (name, bytes) ∈ view.byteStrings →
      ∃ shown, (name, .string shown) ∈ view.members ∧ (name, shown) ∈ view.rows ∧
        bytesOf shown = .ok bytes) ∧
    (∀ byte, bytesOf (View.hexByte byte) = .ok [byte]) ∧
    ∀ word, bytesOf (View.hexWord word) = .ok [Word16.high word, Word16.low word] := by
  refine ⟨fun text => ⟨fun _ => stripsTo_iff, fun _ => bytesOf_eq_ok_iff,
    fun _ => bytesOf_eq_error_iff, ?_⟩, ?_, ?_, ?_, ?_, ?_⟩
  · intro failure failed
    obtain ⟨flaw, -, rfl⟩ := bytesOf_eq_error_iff.mp failed
    rfl
  · intro decoder
    constructor
    · exact Hex.Documented.eq_decode
    · rintro rfl
      exact Hex.documented_decode
  · intro before marker text after digits bytes blankBefore marks spells separated blankAfter
    exact bytesOf_of_separated blankBefore marks spells separated blankAfter
  · intro view name bytes member
    obtain ⟨inMembers, inRows⟩ := View.shows_of_mem_byteStrings member
    exact ⟨_, inMembers, inRows, bytesOf_printed (.inl rfl) bytes⟩
  · intro byte
    rw [View.hexByte_eq]
    exact bytesOf_printed (.inr rfl) [byte]
  · intro word
    rw [View.hexWord_eq]
    exact bytesOf_printed (.inr rfl) [Word16.high word, Word16.low word]

end Conversion

end RadioMesh
