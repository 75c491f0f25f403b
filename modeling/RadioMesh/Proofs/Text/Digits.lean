import RadioMesh.Text.Digits
import Mathlib.Tactic.IntervalCases
import Mathlib.Tactic.Ring

/-!
# Digits and the numbers they make

A digit of either case has a value, which is its place among the digits of its case.  Digits
in a row make a number, to which each digit adds its value times a power of the base, and
this is the number that is read from them.
-/

namespace RadioMesh.Text

/-- The digits in lower case, each at the place of its value. -/
def lowerDigits : List Char := "0123456789abcdef".toList

/-- The digits in upper case, each at the place of its value. -/
def upperDigits : List Char := "0123456789ABCDEF".toList

/-- A digit of a base, in either case, with its value. -/
def IsDigitFor (base : Nat) (character : Char) (value : Nat) : Prop :=
  value < base ∧ (lowerDigits[value]? = some character ∨ upperDigits[value]? = some character)

theorem digitValue?_of_place {character : Char} {value : Nat}
    (place : lowerDigits[value]? = some character ∨ upperDigits[value]? = some character) :
    digitValue? 16 character = some value := by
  have lower : ∀ digit : Fin 16, digitValue? 16 lowerDigits[digit] = some digit.val := by decide
  have upper : ∀ digit : Fin 16, digitValue? 16 upperDigits[digit] = some digit.val := by decide
  rcases place with place | place
  · obtain ⟨small, rfl⟩ := List.getElem?_eq_some_iff.mp place
    exact lower ⟨value, small⟩
  · obtain ⟨small, rfl⟩ := List.getElem?_eq_some_iff.mp place
    exact upper ⟨value, small⟩

theorem digitValue?_digitChar {value : Nat} (small : value < 16) :
    digitValue? 16 (Nat.digitChar value) = some value := by
  revert value
  decide

theorem place_of_digitValue? {character : Char} {value : Nat}
    (found : digitValue? 16 character = some value) :
    lowerDigits[value]? = some character ∨ upperDigits[value]? = some character := by
  have restored := Char.ofNat_toNat character
  simp only [digitValue?] at found
  generalize character.toNat = code at found restored
  subst restored
  by_cases digit : 48 ≤ code ∧ code ≤ 57
  · obtain ⟨low, high⟩ := digit
    interval_cases code <;> cases found <;> decide
  · by_cases lower : 97 ≤ code ∧ code ≤ 102
    · obtain ⟨low, high⟩ := lower
      interval_cases code <;> cases found <;> decide
    · by_cases upper : 65 ≤ code ∧ code ≤ 70
      · obtain ⟨low, high⟩ := upper
        interval_cases code <;> cases found <;> decide
      · simp [digit, lower, upper] at found

/-- A digit of a base is a digit of base sixteen whose value is below the base. -/
theorem digitValue?_eq_filter (base : Nat) (character : Char) :
    digitValue? base character = (digitValue? 16 character).filter (· < base) := by
  simp only [digitValue?]
  by_cases digit : 48 ≤ character.toNat ∧ character.toNat ≤ 57
  · have below : character.toNat - 48 < 16 := by omega
    simp [digit, below, Option.filter]
  · by_cases lower : 97 ≤ character.toNat ∧ character.toNat ≤ 102
    · have below : character.toNat - 87 < 16 := by omega
      simp [digit, lower, below, Option.filter]
    · by_cases upper : 65 ≤ character.toNat ∧ character.toNat ≤ 70
      · have below : character.toNat - 55 < 16 := by omega
        simp [digit, lower, upper, below, Option.filter]
      · simp [digit, lower, upper]

theorem digitValue?_eq_some_iff {base value : Nat} {character : Char} :
    digitValue? base character = some value ↔ IsDigitFor base character value := by
  rw [digitValue?_eq_filter, Option.filter_eq_some_iff, decide_eq_true_eq, IsDigitFor, and_comm]
  constructor
  · intro ⟨below, found⟩
    exact ⟨below, place_of_digitValue? found⟩
  · intro ⟨below, place⟩
    exact ⟨below, digitValue?_of_place place⟩

theorem IsDigitFor.mem {base value : Nat} {character : Char}
    (digit : IsDigitFor base character value) : character ∈ lowerDigits ++ upperDigits := by
  rcases digit.2 with lower | upper
  · exact List.mem_append_left _ (List.mem_of_getElem? lower)
  · exact List.mem_append_right _ (List.mem_of_getElem? upper)

/-- Digits of a base, and the number that they make. -/
inductive Denotes (base : Nat) : List Char → Nat → Prop where
  | nil : Denotes base [] 0
  | cons {character : Char} {digit : Nat} {digits : List Char} {value : Nat} :
      IsDigitFor base character digit →
      Denotes base digits value →
      Denotes base (character :: digits) (digit * base ^ digits.length + value)

theorem Denotes.mem {base value : Nat} {digits : List Char} (denotes : Denotes base digits value) :
    ∀ character ∈ digits, character ∈ lowerDigits ++ upperDigits := by
  induction denotes with
  | nil => exact List.forall_mem_nil _
  | cons digit later ih => exact List.forall_mem_cons.mpr ⟨digit.mem, ih⟩

theorem digitsValue?_eq_some_iff {base start value : Nat} {digits : List Char} :
    digitsValue? base start digits = some value ↔
      ∃ added, Denotes base digits added ∧ start * base ^ digits.length + added = value := by
  induction digits generalizing start with
  | nil =>
      constructor
      · rintro ⟨⟩
        exact ⟨0, .nil, by simp⟩
      · rintro ⟨added, ⟨⟩, rfl⟩
        simp [digitsValue?]
  | cons character digits ih =>
      have carried : ∀ digit added : Nat,
          (base * start + digit) * base ^ digits.length + added =
            start * base ^ (digits.length + 1) + (digit * base ^ digits.length + added) := by
        intro digit added
        ring
      rw [digitsValue?]
      constructor
      · intro read
        split at read
        · next digit found =>
            obtain ⟨added, denotes, rfl⟩ := ih.mp read
            exact ⟨_, .cons (digitValue?_eq_some_iff.mp found) denotes, (carried _ _).symm⟩
        · cases read
      · rintro ⟨total, denotes, rfl⟩
        cases denotes with
        | cons digit later =>
            rw [digitValue?_eq_some_iff.mpr digit]
            exact ih.mpr ⟨_, later, carried _ _⟩

theorem natural?_eq_some_iff {base value : Nat} {digits : List Char} :
    natural? base digits = some value ↔ digits ≠ [] ∧ Denotes base digits value := by
  cases digits with
  | nil => simp [natural?]
  | cons character digits => simp [natural?, digitsValue?_eq_some_iff]

/-- A number of more than one place, printed with its last digit behind the others. -/
theorem toList_hexadecimal_succ (width value : Nat) :
    (hexadecimal (width + 2) value).toList =
      (hexadecimal (width + 1) (value / 16)).toList ++ [Nat.digitChar (value % 16)] := by
  simp only [hexadecimal, String.toList_ofList]
  by_cases short : value < 16
  · have none : value / 16 = 0 := by omega
    have only : value % 16 = value := by omega
    rw [none, only, Nat.toDigits_of_lt_base short, Nat.toDigits_of_lt_base (by decide)]
    simp [List.replicate_succ']
  · have longer := Nat.toDigits_of_base_le (b := 16) (n := value) (by decide) (by omega)
    rw [longer]
    simp

theorem toList_hexadecimal_one {value : Nat} (small : value < 16) :
    (hexadecimal 1 value).toList = [Nat.digitChar value] := by
  rw [hexadecimal, String.toList_ofList, Nat.toDigits_of_lt_base small]
  rfl

/-- A number of up to four places, printed with four, is read back. -/
theorem exists_hexadecimal_four {value : Nat} (small : value < 65536) :
    ∃ first second third fourth,
      (hexadecimal 4 value).toList = [first, second, third, fourth] ∧
        natural? 16 [first, second, third, fourth] = some value := by
  have printed : (hexadecimal 4 value).toList =
      [Nat.digitChar (value / 16 / 16 / 16), Nat.digitChar (value / 16 / 16 % 16),
        Nat.digitChar (value / 16 % 16), Nat.digitChar (value % 16)] := by
    rw [toList_hexadecimal_succ, toList_hexadecimal_succ, toList_hexadecimal_succ,
      toList_hexadecimal_one (by omega)]
    rfl
  refine ⟨_, _, _, _, printed, ?_⟩
  simp (disch := omega) only [natural?, digitsValue?, digitValue?_digitChar, Option.some.injEq]
  omega

end RadioMesh.Text
