import RadioMesh.Proofs.Text.Blank
import RadioMesh.Proofs.Text.Digits
import RadioMesh.Text.Numeral

/-!
# Which text is a numeral

Trimmed text is a numeral exactly when it consists of a marker, if there is one, a plus sign,
if there is one, and digits of the base that the marker means.  A loop over the digits that keeps
a word of sixty-four bits and checks each product and each sum finds the same values.
-/

namespace RadioMesh.Text

/-- A number only grows when more digits are read. -/
theorem le_of_digitsValue? {base start value : Nat} {digits : List Char} (positive : 0 < base)
    (read : digitsValue? base start digits = some value) : start ≤ value := by
  obtain ⟨added, -, rfl⟩ := digitsValue?_eq_some_iff.mp read
  have room : 0 < base ^ digits.length := Nat.pow_pos positive
  exact Nat.le_add_right_of_le (Nat.le_mul_of_pos_right start room)

theorem digitsValue?_replicate_append {base : Nat} (positive : 0 < base) (count : Nat)
    (digits : List Char) :
    digitsValue? base 0 (List.replicate count '0' ++ digits) = digitsValue? base 0 digits := by
  have zero : digitValue? base '0' = some 0 := digitValue?_eq_some_iff.mpr ⟨positive, .inl rfl⟩
  induction count with
  | zero => rfl
  | succ count ih =>
      rw [List.replicate_succ, List.cons_append, digitsValue?, zero]
      exact ih

theorem natural?_replicate_append {base : Nat} {digits : List Char} (positive : 0 < base)
    (filled : digits ≠ []) (count : Nat) :
    natural? base (List.replicate count '0' ++ digits) = natural? base digits := by
  have unfolded : ∀ text : List Char, text ≠ [] →
      natural? base text = digitsValue? base 0 text := by
    intro text filled
    obtain ⟨character, rest, rfl⟩ := List.exists_cons_of_ne_nil filled
    rfl
  rw [unfolded _ (List.append_ne_nil_of_right_ne_nil _ filled), unfolded _ filled]
  exact digitsValue?_replicate_append positive count digits

namespace Numeral

/-- What stands in front of a numeral, and the base that it means. -/
inductive Marks : List Char → Nat → Prop where
  | decimal : Marks [] 10
  | lower : Marks ['0', 'x'] 16
  | upper : Marks ['0', 'X'] 16

/-- A sign that changes nothing. -/
def IsSign (sign : List Char) : Prop := sign = [] ∨ sign = ['+']

/-- Text that is a numeral, with its value. -/
def IsNumeral (text : List Char) (value : Nat) : Prop :=
  ∃ marker base sign digits, Marks marker base ∧ IsSign sign ∧ digits ≠ [] ∧
    Denotes base digits value ∧ text = marker ++ sign ++ digits

theorem Marks.positive {marker : List Char} {base : Nat} (marks : Marks marker base) :
    0 < base := by
  cases marks <;> decide

theorem dropPlus_of_notMem {text : List Char} (unsigned : '+' ∉ text) : dropPlus text = text := by
  unfold dropPlus
  split
  · exact absurd List.mem_cons_self unsigned
  · rfl

theorem dropPlus_append {sign digits : List Char} (signed : IsSign sign)
    (all : ∀ character ∈ digits, character ∈ lowerDigits ++ upperDigits) :
    dropPlus (sign ++ digits) = digits := by
  have plus : '+' ∉ lowerDigits ++ upperDigits := by decide
  rcases signed with rfl | rfl
  · apply dropPlus_of_notMem
    intro inside
    exact plus (all '+' inside)
  · rfl

theorem exists_sign_append (text : List Char) :
    ∃ sign, IsSign sign ∧ text = sign ++ dropPlus text := by
  unfold dropPlus
  split
  · exact ⟨['+'], .inr rfl, rfl⟩
  · exact ⟨[], .inl rfl, rfl⟩

theorem value?_of_unmarked {text : List Char} (lower : 'x' ∉ text) (upper : 'X' ∉ text) :
    value? text = natural? 10 (dropPlus text) := by
  unfold value?
  split
  · exact absurd (by simp) lower
  · exact absurd (by simp) upper
  · rfl

theorem value?_of_marks {marker sign digits : List Char} {base : Nat}
    (marks : Marks marker base) (signed : IsSign sign)
    (all : ∀ character ∈ digits, character ∈ lowerDigits ++ upperDigits) :
    value? (marker ++ sign ++ digits) = natural? base digits := by
  cases marks with
  | decimal =>
      have outside : ∀ letter, letter ∉ lowerDigits ++ upperDigits → letter ≠ '+' →
          letter ∉ sign ++ digits := by
        intro letter other noSign inside
        rcases List.mem_append.mp inside with inSign | inDigits
        · rcases signed with rfl | rfl
          · cases inSign
          · exact noSign (List.mem_singleton.mp inSign)
        · exact other (all letter inDigits)
      rw [List.nil_append, value?_of_unmarked (outside 'x' (by decide) (by decide))
        (outside 'X' (by decide) (by decide)), dropPlus_append signed all]
  | lower =>
      rw [List.append_assoc]
      simp only [List.cons_append, List.nil_append, value?]
      rw [dropPlus_append signed all]
  | upper =>
      rw [List.append_assoc]
      simp only [List.cons_append, List.nil_append, value?]
      rw [dropPlus_append signed all]

theorem value?_eq_some_iff {text : List Char} {value : Nat} :
    value? text = some value ↔ IsNumeral text value := by
  have unsigned : ∀ {marker digits : List Char} {base : Nat}, Marks marker base →
      natural? base (dropPlus digits) = some value → IsNumeral (marker ++ digits) value := by
    intro marker digits base marks read
    obtain ⟨sign, signed, whole⟩ := exists_sign_append digits
    obtain ⟨filled, denotes⟩ := natural?_eq_some_iff.mp read
    refine ⟨marker, base, sign, dropPlus digits, marks, signed, filled, denotes, ?_⟩
    rw [List.append_assoc, ← whole]
  constructor
  · intro read
    unfold value? at read
    split at read
    · exact unsigned .lower read
    · exact unsigned .upper read
    · exact unsigned .decimal read
  · rintro ⟨marker, base, sign, digits, marks, signed, filled, denotes, rfl⟩
    rw [value?_of_marks marks signed denotes.mem]
    exact natural?_eq_some_iff.mpr ⟨filled, denotes⟩

/-- The product of two words, unless it does not fit into one. -/
def product? (left right : UInt64) : Option UInt64 :=
  if left.toNat * right.toNat < UInt64.size then some (left * right) else none

/-- The sum of two words, unless it does not fit into one. -/
def sum? (left right : UInt64) : Option UInt64 :=
  if left.toNat + right.toNat < UInt64.size then some (left + right) else none

/-- A word with one more digit behind its digits. -/
def appended? (base word : UInt64) (digit : Nat) : Option UInt64 := do
  let shifted ← product? base word
  sum? shifted (UInt64.ofNat digit)

/-- Carries a word through some digits and gives up as soon as it does not fit. -/
def wordOfDigits? (base word : UInt64) : List Char → Option UInt64
  | [] => some word
  | character :: rest => do
      let digit ← digitValue? base.toNat character
      let next ← appended? base word digit
      wordOfDigits? base next rest

/-- The word that one or more digits make. -/
def naturalWord? (base : UInt64) : List Char → Option UInt64
  | [] => none
  | character :: rest => wordOfDigits? base 0 (character :: rest)

/-- The word of a numeral that fits into one. -/
def word? : List Char → Option UInt64
  | '0' :: 'x' :: digits => naturalWord? 16 (dropPlus digits)
  | '0' :: 'X' :: digits => naturalWord? 16 (dropPlus digits)
  | digits => naturalWord? 10 (dropPlus digits)

/-- Reads a numeral that is at most `limit`, on words alone. -/
def parseByWords (limit : Nat) (text : String) : Except Flaw Nat :=
  let trimmed := trim text.toList
  match word? trimmed with
  | some word =>
      if word.toNat ≤ limit then .ok word.toNat
      else .error (.outOfRange (String.ofList trimmed))
  | none => .error (.malformed (String.ofList trimmed))

/-- A value that a word holds. -/
def fits? (value : Nat) : Option Nat := if value < UInt64.size then some value else none

theorem map_toNat_product? (left right : UInt64) :
    (product? left right).map UInt64.toNat = fits? (left.toNat * right.toNat) := by
  unfold product? fits?
  split
  · next small => simp [UInt64.toNat_mul, Nat.mod_eq_of_lt small]
  · rfl

theorem map_toNat_sum? (left right : UInt64) :
    (sum? left right).map UInt64.toNat = fits? (left.toNat + right.toNat) := by
  unfold sum? fits?
  split
  · next small => simp [UInt64.toNat_add, Nat.mod_eq_of_lt small]
  · rfl

/-- One step of the loop gives up exactly when the number so far does not fit. -/
theorem map_toNat_appended? {base word : UInt64} {digit : Nat} (small : digit < base.toNat) :
    (appended? base word digit).map UInt64.toNat = fits? (base.toNat * word.toNat + digit) := by
  have bound := base.toNat_lt
  have digitFits : (UInt64.ofNat digit).toNat = digit :=
    UInt64.toNat_ofNat_of_lt' (by change _ < 2 ^ 64; omega)
  have shifts := map_toNat_product? base word
  by_cases fits : base.toNat * word.toNat < UInt64.size
  · rw [fits?, if_pos fits] at shifts
    obtain ⟨shifted, found, value⟩ := Option.map_eq_some_iff.mp shifts
    rw [appended?, found, Option.bind_eq_bind, Option.bind_some, map_toNat_sum?, value,
      digitFits]
  · rw [fits?, if_neg fits, Option.map_eq_none_iff] at shifts
    rw [appended?, shifts, fits?, if_neg (by omega)]
    rfl

/-- The loop over words finds what the digits make, provided that it fits into a word. -/
theorem map_toNat_wordOfDigits? {base : UInt64} (positive : 0 < base.toNat) (word : UInt64)
    (digits : List Char) :
    (wordOfDigits? base word digits).map UInt64.toNat =
      (digitsValue? base.toNat word.toNat digits).bind fits? := by
  induction digits generalizing word with
  | nil => simp [wordOfDigits?, digitsValue?, fits?, word.toNat_lt]
  | cons character digits ih =>
      cases found : digitValue? base.toNat character with
      | none => simp [wordOfDigits?, digitsValue?, found]
      | some digit =>
          have small : digit < base.toNat := (digitValue?_eq_some_iff.mp found).1
          have step : (appended? base word digit).map UInt64.toNat =
              fits? (base.toNat * word.toNat + digit) := map_toNat_appended? small
          simp only [wordOfDigits?, digitsValue?, found, Option.bind_eq_bind, Option.bind_some]
          by_cases fits : base.toNat * word.toNat + digit < UInt64.size
          · rw [fits?, if_pos fits] at step
            obtain ⟨next, appended, value⟩ := Option.map_eq_some_iff.mp step
            rw [appended, Option.bind_some, ih, value]
          · rw [fits?, if_neg fits, Option.map_eq_none_iff] at step
            rw [step, Option.bind_none, Option.map_none]
            symm
            apply Option.bind_eq_none_iff.mpr
            intro value read
            have grown := le_of_digitsValue? positive read
            rw [fits?, if_neg (by omega)]

theorem map_toNat_word? (text : List Char) :
    (word? text).map UInt64.toNat = (value? text).bind fits? := by
  have natural : ∀ (base : UInt64) (digits : List Char), 0 < base.toNat →
      (naturalWord? base digits).map UInt64.toNat = (natural? base.toNat digits).bind fits? := by
    intro base digits positive
    cases digits with
    | nil => rfl
    | cons character rest => exact map_toNat_wordOfDigits? positive 0 _
  unfold word?
  split
  · exact natural 16 _ (by decide)
  · exact natural 16 _ (by decide)
  · next lower upper =>
      rw [value?]
      · exact natural 10 _ (by decide)
      · exact lower
      · exact upper

theorem parseByWords_eq (limit : Nat) (text : String) :
    parseByWords limit text = parse limit text := by
  have words := map_toNat_word? (trim text.toList)
  unfold parseByWords parse
  cases valued : value? (trim text.toList) with
  | none =>
      rw [valued, Option.bind_none, Option.map_eq_none_iff] at words
      simp [words, valued]
  | some value =>
      rw [valued, Option.bind_some, fits?] at words
      by_cases fits : value < UInt64.size
      · rw [if_pos fits] at words
        obtain ⟨word, found, rfl⟩ := Option.map_eq_some_iff.mp words
        simp [found, valued, fits]
      · rw [if_neg fits, Option.map_eq_none_iff] at words
        simp [words, valued, fits]

theorem IsNumeral.unique {text : List Char} {left right : Nat} (first : IsNumeral text left)
    (second : IsNumeral text right) : left = right := by
  have same := value?_eq_some_iff.mpr first
  rw [value?_eq_some_iff.mpr second] at same
  exact (Option.some.inj same).symm

/-- What is said of a trimmed text for a range that ends with `limit`. -/
inductive Answers (limit : Nat) (text : List Char) : Except Flaw Nat → Prop where
  | accepted {value : Nat} :
      IsNumeral text value →
      value ≤ limit →
      Answers limit text (.ok value)
  | outOfRange {value : Nat} :
      IsNumeral text value →
      limit < value →
      value < UInt64.size →
      Answers limit text (.error (.outOfRange (String.ofList text)))
  | malformed :
      (∀ value, IsNumeral text value → UInt64.size ≤ value) →
      Answers limit text (.error (.malformed (String.ofList text)))

theorem answers_parse (limit : Nat) (text : String) :
    Answers limit (trim text.toList) (parse limit text) := by
  simp only [parse]
  cases valued : value? (trim text.toList) with
  | none =>
      refine .malformed ?_
      intro value numeral
      rw [value?_eq_some_iff.mpr numeral] at valued
      cases valued
  | some value =>
      have numeral := value?_eq_some_iff.mp valued
      by_cases wide : value < UInt64.size
      · by_cases inside : value ≤ limit
        · simp only [wide, inside, if_true]
          exact .accepted numeral inside
        · simp only [wide, inside, if_true, if_false]
          exact .outOfRange numeral (Nat.lt_of_not_le inside) wide
      · simp only [wide, if_false]
        refine .malformed ?_
        intro other same
        rw [same.unique numeral]
        exact Nat.le_of_not_lt wide

/-- A text has only one right answer. -/
theorem Answers.unique {limit : Nat} {text : List Char} {left right : Except Flaw Nat}
    (fits : limit < UInt64.size) (first : Answers limit text left)
    (second : Answers limit text right) : left = right := by
  cases first with
  | accepted numeral inside =>
      cases second with
      | accepted other otherInside => rw [numeral.unique other]
      | outOfRange other outside wide =>
          have same := numeral.unique other
          omega
      | malformed none =>
          have large := none _ numeral
          omega
  | outOfRange numeral outside wide =>
      cases second with
      | accepted other inside =>
          have same := numeral.unique other
          omega
      | outOfRange other otherOutside otherWide => rfl
      | malformed none =>
          have large := none _ numeral
          omega
  | malformed none =>
      cases second with
      | accepted numeral inside =>
          have large := none _ numeral
          omega
      | outOfRange numeral outside wide =>
          have large := none _ numeral
          omega
      | malformed _ => rfl

theorem parse_eq_iff {limit : Nat} {text : String} {answer : Except Flaw Nat}
    (fits : limit < UInt64.size) :
    parse limit text = answer ↔ Answers limit (trim text.toList) answer := by
  constructor
  · rintro rfl
    exact answers_parse limit text
  · exact (answers_parse limit text).unique fits

namespace Flaw

theorem message_ne (left right : String) :
    (malformed left).message ≠ (outOfRange right).message := by
  intro same
  change "invalid number: " ++ left = "value out of range: " ++ right at same
  have letters := congrArg (fun text => text.toList.head?) same
  simp only [String.toList_append, List.head?_append] at letters
  cases letters

/-- The same flaw of another text. -/
def about (text : String) : Flaw → Flaw
  | malformed _ => malformed text
  | outOfRange _ => outOfRange text

end Flaw

/-- Zeros between the sign and the digits of a numeral make no difference. -/
theorem parse_of_leading_zeros {limit value zeros : Nat} {text padded : String}
    {marker sign digits : List Char} {base : Nat}
    (marks : Marks marker base) (signed : IsSign sign) (filled : digits ≠ [])
    (denotes : Denotes base digits value)
    (plain : trim text.toList = marker ++ sign ++ digits)
    (longer : trim padded.toList = marker ++ sign ++ (List.replicate zeros '0' ++ digits)) :
    parse limit padded =
      (parse limit text).mapError (Flaw.about (String.ofList (trim padded.toList))) := by
  have zero : '0' ∈ lowerDigits ++ upperDigits := by decide
  have all : ∀ character ∈ List.replicate zeros '0' ++ digits,
      character ∈ lowerDigits ++ upperDigits := by
    intro character member
    rcases List.mem_append.mp member with added | inside
    · exact (List.mem_replicate.mp added).2 ▸ zero
    · exact denotes.mem character inside
  have same : value? (trim padded.toList) = value? (trim text.toList) := by
    rw [plain, longer, value?_of_marks marks signed all, value?_of_marks marks signed denotes.mem,
      natural?_replicate_append marks.positive filled]
  simp only [parse, same]
  cases value? (trim text.toList) with
  | none => simp only [Except.mapError, Flaw.about]
  | some value =>
      by_cases wide : value < UInt64.size
      · by_cases inside : value ≤ limit
        · simp only [wide, inside, if_true, Except.mapError]
        · simp only [wide, inside, if_true, if_false, Except.mapError, Flaw.about]
      · simp only [wide, if_false, Except.mapError, Flaw.about]

/-- Text is read as a number exactly when it is a numeral, without the blanks around it, whose
value is at most the limit.  It is out of range exactly when its value is above the limit and
fits into sixty-four bits, and any other text is no number.  A loop that checks each product and
each sum of words comes to the same, and leading zeros change nothing but the text in the error. -/
theorem parse_reads_numerals (limit : Nat) (fits : limit < 2 ^ 64) (text : String) :
    let trimmed := trim text.toList
    TrimsTo text.toList trimmed ∧
    (∀ value, parse limit text = .ok value ↔ IsNumeral trimmed value ∧ value ≤ limit) ∧
    ((∃ flaw, parse limit text = .error flaw ∧
        flaw.message = "value out of range: " ++ String.ofList trimmed) ↔
      ∃ value, IsNumeral trimmed value ∧ limit < value ∧ value < 2 ^ 64) ∧
    ((∃ flaw, parse limit text = .error flaw ∧
        flaw.message = "invalid number: " ++ String.ofList trimmed) ↔
      ∀ value, IsNumeral trimmed value → 2 ^ 64 ≤ value) ∧
    parse limit text = parseByWords limit text ∧
    ∀ (padded : String) marker base sign digits value zeros,
      Marks marker base → IsSign sign → digits ≠ [] → Denotes base digits value →
      trimmed = marker ++ sign ++ digits →
      trim padded.toList = marker ++ sign ++ (List.replicate zeros '0' ++ digits) →
      parse limit padded =
        (parse limit text).mapError (Flaw.about (String.ofList (trim padded.toList))) := by
  intro trimmed
  refine ⟨trimsTo_trim _, ?accepted, ?outOfRange, ?malformed, (parseByWords_eq limit text).symm,
    ?zeros⟩
  case accepted =>
    intro value
    rw [parse_eq_iff fits]
    constructor
    · intro answers
      cases answers with
      | accepted numeral inside => exact ⟨numeral, inside⟩
    · intro ⟨numeral, inside⟩
      exact .accepted numeral inside
  case outOfRange =>
    constructor
    · intro ⟨flaw, refused, message⟩
      cases (parse_eq_iff fits).mp refused with
      | outOfRange numeral outside wide => exact ⟨_, numeral, outside, wide⟩
      | malformed none => exact absurd message (Flaw.message_ne _ _)
    · intro ⟨value, numeral, outside, wide⟩
      exact ⟨_, (parse_eq_iff fits).mpr (.outOfRange numeral outside wide), rfl⟩
  case malformed =>
    constructor
    · intro ⟨flaw, refused, message⟩
      cases (parse_eq_iff fits).mp refused with
      | outOfRange numeral outside wide => exact absurd message.symm (Flaw.message_ne _ _)
      | malformed none => exact none
    · intro none
      exact ⟨_, (parse_eq_iff fits).mpr (.malformed none), rfl⟩
  case zeros =>
    intro padded marker base sign digits value zeros marks signed filled denotes plain longer
    exact parse_of_leading_zeros marks signed filled denotes plain longer

theorem parse_reads_numerals_at_each_width :
    (255 < 2 ^ 64 ∧ parse 255 " 0X+00ff\t" = .ok 255) ∧
    (65535 < 2 ^ 64 ∧ ∃ flaw, parse 65535 "65536" = .error flaw ∧
      flaw.message = "value out of range: 65536") ∧
    (4294967295 < 2 ^ 64 ∧ ∃ flaw, parse 4294967295 "+0x1" = .error flaw ∧
      flaw.message = "invalid number: +0x1") ∧
    (18446744073709551615 < 2 ^ 64 ∧
      parse 18446744073709551615 "00018446744073709551615" = .ok 18446744073709551615 ∧
      ∃ flaw, parse 18446744073709551615 "18446744073709551616" = .error flaw ∧
        flaw.message = "invalid number: 18446744073709551616") := by
  refine ⟨⟨by decide, ?byte⟩, ⟨by decide, ?pair⟩, ⟨by decide, ?word⟩, ⟨by decide, ?zeros, ?wide⟩⟩
  case byte =>
    have numeral : IsNumeral (trim " 0X+00ff\t".toList) 255 := value?_eq_some_iff.mp (by decide)
    exact ((parse_reads_numerals 255 (by decide) " 0X+00ff\t").2.1 255).mpr ⟨numeral, by decide⟩
  case pair =>
    have numeral : IsNumeral (trim "65536".toList) 65536 := value?_eq_some_iff.mp (by decide)
    exact (parse_reads_numerals 65535 (by decide) "65536").2.2.1.mpr
      ⟨65536, numeral, by decide, by decide⟩
  case word =>
    have unread : value? (trim "+0x1".toList) = none := by decide
    apply (parse_reads_numerals 4294967295 (by decide) "+0x1").2.2.2.1.mpr
    intro value numeral
    rw [value?_eq_some_iff.mpr numeral] at unread
    cases unread
  case zeros =>
    let largest := 18446744073709551615
    let text := "18446744073709551615"
    obtain ⟨-, accepts, -, -, -, padding⟩ := parse_reads_numerals largest (by decide) text
    have read : natural? 10 text.toList = some largest := by decide
    obtain ⟨filled, denotes⟩ := natural?_eq_some_iff.mp read
    have numeral : IsNumeral (trim text.toList) largest := value?_eq_some_iff.mp (by decide)
    rw [padding _ [] 10 [] text.toList largest 3 .decimal (.inl rfl) filled denotes (by decide)
      (by decide), (accepts largest).mpr ⟨numeral, Nat.le_refl _⟩]
    rfl
  case wide =>
    have numeral : IsNumeral (trim "18446744073709551616".toList) 18446744073709551616 :=
      value?_eq_some_iff.mp (by decide)
    apply (parse_reads_numerals 18446744073709551615 (by decide)
      "18446744073709551616").2.2.2.1.mpr
    intro value other
    exact Nat.le_of_eq (numeral.unique other)

end Numeral

end RadioMesh.Text
