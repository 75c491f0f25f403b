import RadioMesh.Proofs.Text.Decimal
import RadioMesh.Proofs.Text.Digits
import RadioMesh.Text.Json

/-!
# Telling JSON values apart

The text of a JSON value determines the value.  More than that, a text that starts with a value
determines the value and what follows it, provided that the character behind the value is no
digit.  This is shown for numbers and strings, and then for arrays and objects from the values of
which they consist.  No value takes more than one line.
-/

namespace RadioMesh.Text

namespace Json

/-- What may follow a value: a character that is no digit, and any others behind it. -/
def Stops (rest : List Char) : Prop :=
  ∃ stop later, rest = stop :: later ∧ stop.isDigit = false

/-- Something whose text can be told from the text of anything else and from what follows. -/
def IsLegible {α : Type} (write : α → List Char) (value : α) : Prop :=
  ∀ other rest otherRest, Stops rest → Stops otherRest →
    write value ++ rest = write other ++ otherRest → value = other ∧ rest = otherRest

/-- The characters of a value. -/
def characters (json : Json) : List Char := json.render.toList

/-- The characters of a string with its quotes. -/
def quoted (text : String) : List Char := '\x22' :: text.toList.flatMap escape ++ ['\x22']

/-- The characters of a member of an object. -/
def memberCharacters (member : String × Json) : List Char :=
  quoted member.1 ++ ':' :: characters member.2

/-- Things with commas between them, and the bracket that closes them. -/
def enclosed {α : Type} (write : α → List Char) (close : Char) : List α → List Char
  | [] => [close]
  | first :: others => write first ++ (others.flatMap (fun next => ',' :: write next) ++ [close])

theorem stops_cons {stop : Char} (noDigit : stop.isDigit = false) (later : List Char) :
    Stops (stop :: later) :=
  ⟨stop, later, rfl, noDigit⟩

section

variable {α : Type} {write : α → List Char} {close : Char}

theorem stops_later (noDigit : close.isDigit = false) (items : List α) (rest : List Char) :
    Stops (items.flatMap (fun next => ',' :: write next) ++ close :: rest) := by
  cases items with
  | nil => exact stops_cons noDigit rest
  | cons item items => exact stops_cons (by decide) _

variable (noDigit : close.isDigit = false) (noComma : close ≠ ',')

include noDigit noComma

/-- Things in a row, each behind a comma, can be told one by one. -/
theorem later_inj {items others : List α} {rest otherRest : List Char}
    (each : ∀ item ∈ items, IsLegible write item)
    (same : items.flatMap (fun next => ',' :: write next) ++ close :: rest =
      others.flatMap (fun next => ',' :: write next) ++ close :: otherRest) :
    items = others ∧ rest = otherRest := by
  induction items generalizing others with
  | nil =>
      cases others with
      | nil => exact ⟨rfl, (List.cons.inj same).2⟩
      | cons other others => exact absurd (List.cons.inj same).1 noComma
  | cons item items ih =>
      cases others with
      | nil => exact absurd (List.cons.inj same).1.symm noComma
      | cons other others =>
          obtain ⟨first, later⟩ := List.forall_mem_cons.mp each
          simp only [List.flatMap_cons, List.cons_append, List.append_assoc,
            List.cons.injEq, true_and] at same
          obtain ⟨rfl, behind⟩ := first other _ _ (stops_later noDigit items rest)
            (stops_later noDigit others otherRest) same
          obtain ⟨rfl, left⟩ := ih later behind
          exact ⟨rfl, left⟩

omit noDigit noComma in
/-- A list that is not empty does not look like the bracket that closes an empty one. -/
theorem enclosed_cons_ne {item : α} {items : List α} {rest otherRest : List Char}
    (starts : ∀ value, ∃ first later, write value = first :: later ∧ first ≠ close) :
    enclosed write close (item :: items) ++ rest ≠ close :: otherRest := by
  obtain ⟨first, later, written, different⟩ := starts item
  rw [enclosed, written]
  intro same
  exact different (List.cons.inj same).1

theorem enclosed_inj {items others : List α} {rest otherRest : List Char}
    (starts : ∀ value, ∃ first later, write value = first :: later ∧ first ≠ close)
    (each : ∀ item ∈ items, IsLegible write item)
    (same : enclosed write close items ++ rest = enclosed write close others ++ otherRest) :
    items = others ∧ rest = otherRest := by
  cases items with
  | nil =>
      cases others with
      | nil => exact ⟨rfl, (List.cons.inj same).2⟩
      | cons other others => exact absurd same.symm (enclosed_cons_ne starts)
  | cons item items =>
      cases others with
      | nil => exact absurd same (enclosed_cons_ne starts)
      | cons other others =>
          obtain ⟨first, later⟩ := List.forall_mem_cons.mp each
          simp only [enclosed, List.append_assoc, List.singleton_append] at same
          obtain ⟨rfl, behind⟩ := first other _ _ (stops_later noDigit items rest)
            (stops_later noDigit others otherRest) same
          obtain ⟨rfl, left⟩ := later_inj noDigit noComma later behind
          exact ⟨rfl, left⟩

end

theorem toList_separated_cons (part : String) (parts : List String) :
    (separated (part :: parts)).toList =
      part.toList ++ parts.flatMap fun next => ',' :: next.toList := by
  induction parts generalizing part with
  | nil => simp [separated]
  | cons next parts ih =>
      rw [separated, String.toList_append, String.toList_append, ih, List.flatMap_cons]
      simp

theorem toList_separated_map {α : Type} (print : α → String) (close : Char) (items : List α) :
    (separated (items.map print)).toList ++ [close] =
      enclosed (fun item => (print item).toList) close items := by
  cases items with
  | nil => rfl
  | cons item items =>
      rw [List.map_cons, toList_separated_cons, List.flatMap_map, enclosed, List.append_assoc]

theorem renderItems_eq_map (items : List Json) : renderItems items = items.map render := by
  induction items with
  | nil => rfl
  | cons item items ih => rw [renderItems, ih, List.map_cons]

theorem renderMembers_eq_map (members : List (String × Json)) :
    renderMembers members =
      members.map fun member => quote member.1 ++ ":" ++ render member.2 := by
  induction members with
  | nil => rfl
  | cons member members ih => rw [renderMembers, ih, List.map_cons]

theorem toList_quote (text : String) : (quote text).toList = quoted text := by
  rw [quote, String.toList_ofList, quoted]

theorem characters_number (value : Int) :
    characters (.number value) = (signedDecimal value).toList := by
  rw [characters, render]

theorem characters_string (text : String) : characters (.string text) = quoted text := by
  rw [characters, render, toList_quote]

theorem characters_array (items : List Json) :
    characters (.array items) = '[' :: enclosed characters ']' items := by
  have printed := toList_separated_map render ']' items
  rw [characters, render, renderItems_eq_map, String.toList_append, String.toList_append,
    List.append_assoc]
  exact congrArg ('[' :: ·) printed

theorem characters_object (members : List (String × Json)) :
    characters (.object members) = '\x7b' :: enclosed memberCharacters '\x7d' members := by
  have printed := toList_separated_map
    (fun member : String × Json => quote member.1 ++ ":" ++ render member.2) '\x7d' members
  have written : (fun member : String × Json =>
      (quote member.1 ++ ":" ++ render member.2).toList) = memberCharacters := by
    funext member
    rw [String.toList_append, String.toList_append, toList_quote, List.append_assoc]
    rfl
  rw [written] at printed
  rw [characters, render, renderMembers_eq_map, String.toList_append, String.toList_append,
    List.append_assoc]
  exact congrArg ('\x7b' :: ·) printed

/-- The character that is written at the front of a text inside quotes, and what is left. -/
def unescape? : List Char → Option (Char × List Char)
  | '\x5c' :: '\x22' :: rest => some ('\x22', rest)
  | '\x5c' :: '\x5c' :: rest => some ('\x5c', rest)
  | '\x5c' :: 'b' :: rest => some ('\x08', rest)
  | '\x5c' :: 'f' :: rest => some ('\x0c', rest)
  | '\x5c' :: 'n' :: rest => some ('\n', rest)
  | '\x5c' :: 'r' :: rest => some ('\r', rest)
  | '\x5c' :: 't' :: rest => some ('\t', rest)
  | '\x5c' :: 'u' :: first :: second :: third :: fourth :: rest =>
      (natural? 16 [first, second, third, fourth]).map fun code => (Char.ofNat code, rest)
  | '\x5c' :: _ => none
  | '\x22' :: _ => none
  | character :: rest => some (character, rest)
  | [] => none

theorem unescape?_escape (character : Char) (rest : List Char) :
    unescape? (escape character ++ rest) = some (character, rest) := by
  unfold escape
  -- Seven characters have an escape of their own.
  iterate 7
    split
    · next same =>
        rw [same]
        rfl
  split
  · next small =>
      have few : character.toNat < 65536 := Nat.lt_trans small (by decide)
      obtain ⟨first, second, third, fourth, digits, read⟩ := exists_hexadecimal_four few
      rw [digits]
      simp [unescape?, read]
  · next noBackslash _ _ _ _ _ _ => simp [unescape?, noBackslash]

/-- A character inside quotes can be told from any other and from the quote at the end. -/
theorem escape_append_inj {left right : Char} {leftRest rightRest : List Char}
    (same : escape left ++ leftRest = escape right ++ rightRest) :
    left = right ∧ leftRest = rightRest := by
  have read := unescape?_escape left leftRest
  rw [same, unescape?_escape] at read
  cases read
  exact ⟨rfl, rfl⟩

theorem escape_append_ne_quote {character : Char} {rest otherRest : List Char} :
    escape character ++ rest ≠ '\x22' :: otherRest := by
  intro same
  have read := unescape?_escape character rest
  rw [same] at read
  cases read

theorem flatMap_escape_append_inj {left right leftRest rightRest : List Char}
    (same : left.flatMap escape ++ '\x22' :: leftRest =
      right.flatMap escape ++ '\x22' :: rightRest) :
    left = right ∧ leftRest = rightRest := by
  induction left generalizing right with
  | nil =>
      cases right with
      | nil => exact ⟨rfl, (List.cons.inj same).2⟩
      | cons character right =>
          rw [List.flatMap_cons, List.append_assoc] at same
          exact absurd same.symm escape_append_ne_quote
  | cons character left ih =>
      cases right with
      | nil =>
          rw [List.flatMap_cons, List.append_assoc] at same
          exact absurd same escape_append_ne_quote
      | cons other right =>
          rw [List.flatMap_cons, List.flatMap_cons, List.append_assoc, List.append_assoc] at same
          obtain ⟨rfl, behind⟩ := escape_append_inj same
          obtain ⟨rfl, rest⟩ := ih behind
          exact ⟨rfl, rest⟩

/-- A string ends at its second quote, whatever follows it. -/
theorem quoted_append_inj {left right : String} {leftRest rightRest : List Char}
    (same : quoted left ++ leftRest = quoted right ++ rightRest) :
    left = right ∧ leftRest = rightRest := by
  simp only [quoted, List.cons_append, List.append_assoc, List.nil_append, List.cons.injEq,
    true_and] at same
  obtain ⟨text, rest⟩ := flatMap_escape_append_inj same
  exact ⟨String.toList_inj.mp text, rest⟩

theorem exists_digit_of_decimal (value : Nat) :
    ∃ digit later, (decimal value).toList = digit :: later ∧ digit.isDigit = true := by
  have digits := @isDigit_of_mem_decimal value
  have some : (decimal value).toList ≠ [] := by
    rw [decimal, String.toList_ofList]
    exact Nat.toDigits_ne_nil
  obtain ⟨digit, later, whole⟩ := List.exists_cons_of_ne_nil some
  refine ⟨digit, later, whole, digits ?_⟩
  rw [whole]
  exact List.mem_cons_self

theorem toList_signedDecimal_negSucc (value : Nat) :
    (signedDecimal (.negSucc value)).toList = '-' :: (decimal (value + 1)).toList := by
  rw [signedDecimal, String.toList_append]
  rfl

theorem decimal_append_ne_minus {value : Nat} {rest otherRest : List Char} :
    (decimal value).toList ++ rest ≠ '-' :: otherRest := by
  obtain ⟨digit, later, whole, isDigit⟩ := exists_digit_of_decimal value
  rw [whole]
  intro same
  rw [(List.cons.inj same).1] at isDigit
  cases isDigit

/-- A number ends before the first character that is no digit. -/
theorem signedDecimal_append_inj {left right : Int} {leftRest rightRest : List Char}
    (leftEnds : Stops leftRest) (rightEnds : Stops rightRest)
    (same : (signedDecimal left).toList ++ leftRest = (signedDecimal right).toList ++ rightRest) :
    left = right ∧ leftRest = rightRest := by
  obtain ⟨leftStop, leftLater, rfl, leftNoDigit⟩ := leftEnds
  obtain ⟨rightStop, rightLater, rfl, rightNoDigit⟩ := rightEnds
  have natural : ∀ {left right : Nat},
      (decimal left).toList ++ leftStop :: leftLater =
        (decimal right).toList ++ rightStop :: rightLater →
      left = right ∧ leftStop :: leftLater = rightStop :: rightLater := by
    intro left right same
    obtain ⟨rfl, _⟩ := decimal_append_inj leftNoDigit rightNoDigit same
    exact ⟨rfl, List.append_cancel_left same⟩
  cases left with
  | ofNat left =>
      cases right with
      | ofNat right =>
          obtain ⟨rfl, rest⟩ := natural same
          exact ⟨rfl, rest⟩
      | negSucc right =>
          rw [toList_signedDecimal_negSucc] at same
          exact absurd same decimal_append_ne_minus
  | negSucc left =>
      cases right with
      | ofNat right =>
          rw [toList_signedDecimal_negSucc] at same
          exact absurd same.symm decimal_append_ne_minus
      | negSucc right =>
          rw [toList_signedDecimal_negSucc, toList_signedDecimal_negSucc] at same
          obtain ⟨next, rest⟩ := natural (List.cons.inj same).2
          cases next
          exact ⟨rfl, rest⟩

/-- The kinds of values. -/
inductive Shape
  | number
  | truth
  | string
  | array
  | object
  deriving DecidableEq

def shape : Json → Shape
  | number _ => .number
  | truth _ => .truth
  | string _ => .string
  | array _ => .array
  | object _ => .object

/-- The kind of value that starts with a character. -/
def shape? (first : Char) : Option Shape :=
  if first = '[' then some .array
  else if first = '\x7b' then some .object
  else if first = '\x22' then some .string
  else if first = 't' ∨ first = 'f' then some .truth
  else if first = '-' ∨ first.isDigit = true then some .number
  else none

theorem shape?_of_isDigit {first : Char} (digit : first.isDigit = true) :
    shape? first = some .number := by
  have differs : ∀ other : Char, other.isDigit = false → first ≠ other := by
    rintro other noDigit rfl
    rw [digit] at noDigit
    cases noDigit
  simp [shape?, digit, differs '[' rfl, differs '\x7b' rfl, differs '\x22' rfl,
    differs 't' rfl, differs 'f' rfl]

/-- The first character of a value shows of which kind it is. -/
theorem exists_first (json : Json) :
    ∃ first later, characters json = first :: later ∧ shape? first = some json.shape := by
  cases json with
  | number value =>
      rw [characters_number]
      cases value with
      | ofNat value =>
          obtain ⟨digit, later, whole, isDigit⟩ := exists_digit_of_decimal value
          exact ⟨digit, later, whole, shape?_of_isDigit isDigit⟩
      | negSucc value => exact ⟨'-', _, toList_signedDecimal_negSucc value, rfl⟩
  | truth value =>
      cases value with
      | false => exact ⟨'f', _, rfl, rfl⟩
      | true => exact ⟨'t', _, rfl, rfl⟩
  | string text => exact ⟨'\x22', _, characters_string text, rfl⟩
  | array items => exact ⟨'[', _, characters_array items, rfl⟩
  | object members => exact ⟨'\x7b', _, characters_object members, rfl⟩

theorem exists_first_ne {close : Char} (closes : shape? close = none) (json : Json) :
    ∃ first later, characters json = first :: later ∧ first ≠ close := by
  obtain ⟨first, later, whole, shaped⟩ := exists_first json
  refine ⟨first, later, whole, ?_⟩
  rintro rfl
  rw [closes] at shaped
  cases shaped

theorem shape_eq_of_append_eq {left right : Json} {leftRest rightRest : List Char}
    (same : characters left ++ leftRest = characters right ++ rightRest) :
    left.shape = right.shape := by
  obtain ⟨first, later, whole, shaped⟩ := exists_first left
  obtain ⟨other, otherLater, otherWhole, otherShaped⟩ := exists_first right
  rw [whole, otherWhole] at same
  obtain ⟨rfl, _⟩ := List.cons.inj same
  rw [shaped] at otherShaped
  exact Option.some.inj otherShaped

theorem isLegible_number (value : Int) : IsLegible characters (.number value) := by
  intro other rest otherRest ends otherEnds same
  have shapes := shape_eq_of_append_eq same
  cases other with
  | number otherValue =>
      rw [characters_number, characters_number] at same
      obtain ⟨rfl, behind⟩ := signedDecimal_append_inj ends otherEnds same
      exact ⟨rfl, behind⟩
  | _ => cases shapes

theorem isLegible_truth (value : Bool) : IsLegible characters (.truth value) := by
  intro other rest otherRest ends otherEnds same
  have shapes := shape_eq_of_append_eq same
  cases other with
  | truth otherValue =>
      have values : value = otherValue := by
        cases value <;> cases otherValue <;> first | rfl | cases (List.cons.inj same).1
      subst values
      exact ⟨rfl, List.append_cancel_left same⟩
  | _ => cases shapes

theorem isLegible_string (text : String) : IsLegible characters (.string text) := by
  intro other rest otherRest ends otherEnds same
  have shapes := shape_eq_of_append_eq same
  cases other with
  | string otherText =>
      rw [characters_string, characters_string] at same
      obtain ⟨rfl, behind⟩ := quoted_append_inj same
      exact ⟨rfl, behind⟩
  | _ => cases shapes

theorem isLegible_array {items : List Json} (each : ∀ item ∈ items, IsLegible characters item) :
    IsLegible characters (.array items) := by
  intro other rest otherRest ends otherEnds same
  have shapes := shape_eq_of_append_eq same
  cases other with
  | array otherItems =>
      rw [characters_array, characters_array] at same
      obtain ⟨rfl, behind⟩ := enclosed_inj (by decide) (by decide) (exists_first_ne rfl) each
        (List.cons.inj same).2
      exact ⟨rfl, behind⟩
  | _ => cases shapes

theorem isLegible_member {name : String} {value : Json} (legible : IsLegible characters value) :
    IsLegible memberCharacters (name, value) := by
  rintro ⟨otherName, otherValue⟩ rest otherRest ends otherEnds same
  rw [memberCharacters, memberCharacters, List.append_assoc, List.append_assoc] at same
  obtain ⟨rfl, behind⟩ := quoted_append_inj same
  obtain ⟨rfl, left⟩ := legible otherValue rest otherRest ends otherEnds (List.cons.inj behind).2
  exact ⟨rfl, left⟩

theorem isLegible_object {members : List (String × Json)}
    (each : ∀ member ∈ members, IsLegible characters member.2) :
    IsLegible characters (.object members) := by
  intro other rest otherRest ends otherEnds same
  have shapes := shape_eq_of_append_eq same
  cases other with
  | object otherMembers =>
      rw [characters_object, characters_object] at same
      obtain ⟨rfl, behind⟩ := enclosed_inj (by decide) (by decide)
        (fun member => ⟨'\x22', _, rfl, by decide⟩)
        (fun member known => isLegible_member (each member known)) (List.cons.inj same).2
      exact ⟨rfl, behind⟩
  | _ => cases shapes

/-- What holds of an array or an object if it holds of the values inside holds of every value. -/
theorem nested {motive : Json → Prop}
    (number : ∀ value, motive (.number value))
    (truth : ∀ value, motive (.truth value))
    (string : ∀ text, motive (.string text))
    (array : ∀ items, (∀ item ∈ items, motive item) → motive (.array items))
    (object : ∀ members, (∀ member ∈ members, motive member.2) → motive (.object members))
    (json : Json) : motive json := by
  match json with
  | .number value => exact number value
  | .truth value => exact truth value
  | .string text => exact string text
  | .array items =>
      exact array items fun item member => nested number truth string array object item
  | .object members =>
      exact object members fun member known =>
        nested number truth string array object member.2
termination_by sizeOf json
decreasing_by
  · have smaller := List.sizeOf_lt_of_mem member
    simp only [Json.array.sizeOf_spec]
    omega
  · have smaller := List.sizeOf_lt_of_mem known
    have parts : sizeOf member = 1 + sizeOf member.1 + sizeOf member.2 := rfl
    simp only [Json.object.sizeOf_spec]
    omega

/-- Every value can be told from any other and from what follows it. -/
theorem isLegible_characters (json : Json) : IsLegible characters json := by
  induction json using nested with
  | number value => exact isLegible_number value
  | truth value => exact isLegible_truth value
  | string text => exact isLegible_string text
  | array items each => exact isLegible_array each
  | object members each => exact isLegible_object each

/-- The text of a value determines it. -/
theorem render_injective : Function.Injective render := by
  intro left right same
  have ends : Stops ['\n'] := stops_cons rfl []
  have texts : characters left ++ ['\n'] = characters right ++ ['\n'] := by
    rw [characters, characters, same]
  exact (isLegible_characters left right _ _ ends ends texts).1

theorem newline_notMem_escape (character : Char) : '\n' ∉ escape character := by
  unfold escape
  iterate 7
    split
    · decide
  split
  · next small =>
      have few : character.toNat < 65536 := Nat.lt_trans small (by decide)
      obtain ⟨first, second, third, fourth, digits, read⟩ := exists_hexadecimal_four few
      have known := (natural?_eq_some_iff.mp read).2.mem
      rw [digits, List.mem_append]
      rintro (start | digit)
      · revert start
        decide
      · have member := known '\n' digit
        revert member
        decide
  · next noNewline _ _ _ =>
      intro same
      exact noNewline (List.mem_singleton.mp same).symm

theorem newline_notMem_quoted (text : String) : '\n' ∉ quoted text := by
  intro member
  simp only [quoted, List.mem_append, List.mem_cons, List.mem_flatMap, List.not_mem_nil,
    or_false] at member
  rcases member with (start | ⟨character, _, inside⟩) | last
  · cases start
  · exact newline_notMem_escape character inside
  · cases last

theorem newline_notMem_decimal (value : Nat) : '\n' ∉ (decimal value).toList := by
  intro member
  cases isDigit_of_mem_decimal member

theorem newline_notMem_enclosed {α : Type} {write : α → List Char} {close : Char}
    (inner : close ≠ '\n') {items : List α} (each : ∀ item ∈ items, '\n' ∉ write item) :
    '\n' ∉ enclosed write close items := by
  cases items with
  | nil =>
      intro member
      exact inner (List.mem_singleton.mp member).symm
  | cons item items =>
      obtain ⟨first, later⟩ := List.forall_mem_cons.mp each
      simp only [enclosed, List.mem_append, List.mem_flatMap, List.mem_cons, List.not_mem_nil,
        or_false, not_or, not_exists, not_and]
      refine ⟨first, ?_, inner.symm⟩
      intro next member
      exact ⟨by decide, later next member⟩

/-- A value takes one line only. -/
theorem newline_notMem_characters (json : Json) : '\n' ∉ characters json := by
  induction json using nested with
  | number value =>
      rw [characters_number]
      cases value with
      | ofNat value => exact newline_notMem_decimal value
      | negSucc value =>
          rw [toList_signedDecimal_negSucc]
          exact List.not_mem_cons_of_ne_of_not_mem (by decide) (newline_notMem_decimal _)
  | truth value => cases value <;> decide
  | string text =>
      rw [characters_string]
      exact newline_notMem_quoted text
  | array items each =>
      rw [characters_array]
      exact List.not_mem_cons_of_ne_of_not_mem (by decide)
        (newline_notMem_enclosed (by decide) each)
  | object members each =>
      rw [characters_object]
      refine List.not_mem_cons_of_ne_of_not_mem (by decide)
        (newline_notMem_enclosed (by decide) ?_)
      intro member known
      rw [memberCharacters, List.mem_append, not_or]
      exact ⟨newline_notMem_quoted member.1,
        List.not_mem_cons_of_ne_of_not_mem (by decide) (each member known)⟩

end Json

end RadioMesh.Text
