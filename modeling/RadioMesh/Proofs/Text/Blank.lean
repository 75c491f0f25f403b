import RadioMesh.Text.Blank
import Mathlib.Data.List.TakeWhile

/-!
# Text without the blanks around it

Trimmed text neither starts nor ends with a blank and is what remains of a text when blanks
in front of it and behind it are taken away.  Only one part of a text has both properties.
-/

namespace RadioMesh.Text

/-- What is left of a text without the blanks in front of it and behind it. -/
structure TrimsTo (text core : List Char) : Prop where
  surrounded : ∃ before after, text = before ++ core ++ after ∧
    (∀ character ∈ before, isBlank character = true) ∧
    (∀ character ∈ after, isBlank character = true)
  first : ∀ character ∈ core.head?, isBlank character = false
  last : ∀ character ∈ core.getLast?, isBlank character = false

theorem dropWhile_isBlank_append {blanks text : List Char}
    (blank : ∀ character ∈ blanks, isBlank character = true)
    (first : ∀ character ∈ text.head?, isBlank character = false) :
    (blanks ++ text).dropWhile isBlank = text := by
  rw [List.dropWhile_append_of_pos blank]
  cases text with
  | nil => rfl
  | cons character text =>
      have visible : isBlank character = false := first character rfl
      exact List.dropWhile_cons_of_neg (by simp [visible])

theorem head?_dropWhile_isBlank (text : List Char) :
    ∀ character ∈ (text.dropWhile isBlank).head?, isBlank character = false := by
  intro character head
  have stopped := List.head?_dropWhile_not isBlank text
  rw [Option.mem_def.mp head] at stopped
  exact stopped

theorem trimsTo_trim (text : List Char) : TrimsTo text (trim text) := by
  have whole := List.takeWhile_append_dropWhile (p := isBlank) (l := text)
  have middle := List.takeWhile_append_dropWhile (p := isBlank)
    (l := (text.dropWhile isBlank).reverse)
  have split : text.dropWhile isBlank =
      trim text ++ ((text.dropWhile isBlank).reverse.takeWhile isBlank).reverse := by
    rw [trim, ← List.reverse_append, middle, List.reverse_reverse]
  constructor
  · refine ⟨text.takeWhile isBlank,
      ((text.dropWhile isBlank).reverse.takeWhile isBlank).reverse, ?_, ?_, ?_⟩
    · rw [List.append_assoc, ← split, whole]
    · intro character member
      exact List.mem_takeWhile_imp member
    · intro character member
      exact List.mem_takeWhile_imp (List.mem_reverse.mp member)
  · intro character head
    apply head?_dropWhile_isBlank text
    rw [split, List.head?_append, Option.mem_def.mp head]
    rfl
  · intro character last
    rw [trim, List.getLast?_reverse] at last
    exact head?_dropWhile_isBlank _ character last

theorem TrimsTo.trim_eq {text core : List Char} (trims : TrimsTo text core) :
    trim text = core := by
  obtain ⟨⟨before, after, rfl, blankBefore, blankAfter⟩, first, last⟩ := trims
  have blankReverse : ∀ character ∈ after.reverse, isBlank character = true := by
    intro character member
    exact blankAfter character (List.mem_reverse.mp member)
  rw [trim, List.append_assoc]
  cases core with
  | nil =>
      have nothing : (before ++ ([] ++ after)).dropWhile isBlank = [] := by
        apply List.dropWhile_eq_nil_iff.mpr
        intro character member
        exact (List.mem_append.mp member).elim (blankBefore character) (blankAfter character)
      rw [nothing]
      rfl
  | cons character core =>
      have front : ∀ other ∈ (character :: core ++ after).head?, isBlank other = false := first
      have back : ∀ other ∈ (character :: core).reverse.head?, isBlank other = false := by
        rwa [List.head?_reverse]
      rw [dropWhile_isBlank_append blankBefore front, List.reverse_append,
        dropWhile_isBlank_append blankReverse back, List.reverse_reverse]

/-- Blanks around a text make no difference to what is left of it. -/
theorem trim_surrounded {before text after : List Char}
    (blankBefore : ∀ character ∈ before, isBlank character = true)
    (blankAfter : ∀ character ∈ after, isBlank character = true) :
    trim (before ++ text ++ after) = trim text := by
  obtain ⟨⟨left, right, whole, blankLeft, blankRight⟩, first, last⟩ := trimsTo_trim text
  apply TrimsTo.trim_eq
  refine ⟨⟨before ++ left, right ++ after, ?_, ?_, ?_⟩, first, last⟩
  · have moved := congrArg (fun middle => before ++ middle ++ after) whole
    simpa only [List.append_assoc] using moved
  · exact List.forall_mem_append.mpr ⟨blankBefore, blankLeft⟩
  · exact List.forall_mem_append.mpr ⟨blankRight, blankAfter⟩

end RadioMesh.Text
