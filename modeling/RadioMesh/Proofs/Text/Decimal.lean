import RadioMesh.Text.Digits

/-!
# Reading decimal numbers off a text

A number in base ten consists of digits only, and its digits determine it.  So a text
that starts with a number determines the number, provided that the character behind it
is no digit.
-/

namespace RadioMesh.Text

theorem isDigit_of_mem_decimal {value : Nat} {character : Char}
    (member : character ∈ (decimal value).toList) : character.isDigit = true := by
  apply Nat.isDigit_of_mem_toDigits (b := 10) (n := value) (by decide) (by decide)
  simpa [decimal] using member

theorem decimal_injective {left right : Nat} (same : decimal left = decimal right) :
    left = right := by
  have digits := congrArg (fun text => Nat.ofDigitChars 10 text.toList 0) same
  simpa [decimal, Nat.ofDigitChars_toDigits] using digits

/-- A number in front of a character that is no digit can be read off a text. -/
theorem decimal_append_inj {left right : Nat} {leftStop rightStop : Char}
    {leftRest rightRest : List Char}
    (leftEnds : leftStop.isDigit = false) (rightEnds : rightStop.isDigit = false)
    (same : (decimal left).toList ++ leftStop :: leftRest =
      (decimal right).toList ++ rightStop :: rightRest) :
    left = right ∧ leftRest = rightRest := by
  have leftDigits : ((decimal left).toList ++ leftStop :: leftRest).takeWhile Char.isDigit =
      (decimal left).toList := by
    rw [List.takeWhile_append_of_pos fun _ => isDigit_of_mem_decimal]
    simp [leftEnds]
  have rightDigits : ((decimal right).toList ++ rightStop :: rightRest).takeWhile Char.isDigit =
      (decimal right).toList := by
    rw [List.takeWhile_append_of_pos fun _ => isDigit_of_mem_decimal]
    simp [rightEnds]
  have digits : (decimal left).toList = (decimal right).toList := by
    rw [← leftDigits, same, rightDigits]
  constructor
  · apply decimal_injective
    exact String.toList_inj.mp digits
  · rw [digits] at same
    have rest := List.append_cancel_left same
    exact (List.cons.inj rest).2

end RadioMesh.Text
