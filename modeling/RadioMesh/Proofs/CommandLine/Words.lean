import RadioMesh.Program
import RadioMesh.Proofs.Text.SeparatedHex
import Mathlib.Data.List.TakeWhile

/-!
# Words that ask to decode

A command line that names a kind of record and gives the digits of some bytes is understood
as the request to decode these bytes.
-/

namespace RadioMesh

namespace CommandLine

open Text

namespace Grammar

variable {σ : Type} {grammar : Grammar σ} {scan : Scan σ} {word : String}

/-- A word that no option waits for and that looks like none is an operand. -/
theorem scanWord_operand (idle : scan.awaits = false) (plain : looksLikeOption word = false) :
    grammar.scanWord scan word = grammar.scanOperand scan word := by
  unfold scanWord
  rw [idle, Bool.false_and, if_neg Bool.false_ne_true]
  unfold looksLikeOption at plain
  split
  · rfl
  · split
    · next dashes => simp [dashes] at plain
    · next body dashes => simp [dashes] at plain
    · next letter rest dashes => simp [dashes] at plain
    · rfl

/-- A word for which an option waits is its value, unless it looks like an option. -/
theorem scanWord_value (waiting : scan.awaits = true) (plain : looksLikeOption word = false) :
    grammar.scanWord scan word = .ok (scan.fill word) := by
  simp [scanWord, waiting, plain]

/-- A double hyphen and a name are an option. -/
theorem scanWord_option {name : List Char} (spelled : word.toList = '-' :: '-' :: name)
    (idle : scan.awaits = false) (reading : scan.ended = false) (named : name ≠ [])
    (bare : '=' ∉ name) :
    grammar.scanWord scan word = grammar.scanOption scan word (String.ofList name) none := by
  have whole : name.takeWhile (· ≠ '=') = name := by
    apply List.takeWhile_eq_self_iff.mpr
    intro character member
    apply decide_eq_true
    rintro rfl
    exact bare member
  have nothing : name.dropWhile (· ≠ '=') = [] :=
    List.dropWhile_eq_nil_iff.mpr (List.takeWhile_eq_self_iff.mp whole)
  obtain ⟨letter, rest, rfl⟩ := List.exists_cons_of_ne_nil named
  simp only [scanWord, idle, reading, spelled, whole, nothing, Bool.false_and,
    Bool.false_eq_true, if_false]

theorem scanWords_cons {rest : List String} (flat : grammar.commands = []) :
    grammar.scanWords scan (word :: rest) =
      grammar.scanWord scan word >>= fun next => grammar.scanWords next rest := by
  rw [scanWords, flat]
  simp only [List.contains_nil, Bool.and_false, Bool.false_eq_true, if_false]
  cases grammar.scanWord scan word <;> rfl

theorem scanWord_format (idle : scan.awaits = false) (reading : scan.ended = false) :
    grammar.scanWord scan "--format" = grammar.scanOption scan "--format" "format" none :=
  scanWord_option (by decide) idle reading (by decide) (by decide)

theorem scanWord_strict (idle : scan.awaits = false) (reading : scan.ended = false) :
    grammar.scanWord scan "--strict" = grammar.scanOption scan "--strict" "strict" none :=
  scanWord_option (by decide) idle reading (by decide) (by decide)

end Grammar

theorem find?_kindName (kind : RecordKind) :
    RecordKind.all.find? (fun other => other.name == kind.name) = some kind := by
  cases kind <;> rfl

theorem find?_formatName (format : OutputFormat) :
    OutputFormat.all.find? (fun other => other.name == format.name) = some format := by
  cases format <;> rfl

theorem looksLikeOption_kindName (kind : RecordKind) :
    Grammar.looksLikeOption kind.name = false := by
  cases kind <;> rfl

theorem looksLikeOption_formatName (format : OutputFormat) :
    Grammar.looksLikeOption format.name = false := by
  cases format <;> rfl

theorem looksLikeOption_hexText (bytes : Bytes) :
    Grammar.looksLikeOption (Hex.text bytes) = false := by
  have hyphen : '-' ∉ lowerDigits ++ upperDigits := by decide
  unfold Grammar.looksLikeOption
  rw [Hex.text, String.toList_ofList]
  split
  · next rest digits =>
      exact absurd ((Hex.spells_encode bytes).mem '-' (by simp [digits])) hyphen
  · rfl

/-- The words that ask to decode some bytes as a kind of record. -/
def decodeWords (kind : RecordKind) (policy : LengthPolicy) (format : OutputFormat)
    (bytes : Bytes) : List String :=
  "decode" :: kind.name :: Hex.text bytes :: "--format" :: format.name ::
    match policy with
    | .permissive => []
    | .strict => ["--strict"]

theorem read_decodeWords (kind : RecordKind) (policy : LengthPolicy) (format : OutputFormat)
    (bytes : Bytes) :
    read (decodeWords kind policy format bytes) =
      .ok ⟨.decode ⟨kind, Hex.text bytes, policy⟩, ⟨some format, none, none⟩⟩ := by
  have top : ∀ rest, read ("decode" :: rest) =
      readDecode rest >>= fun inner => .ok { inner with shared := inner.shared.within {} } :=
    fun _ => rfl
  rw [decodeWords.eq_def, top, readDecode, readCommand]
  simp only [bind, Except.bind]
  -- Word by word: what is kept of the word before is checked when the next one is read.
  rw [Grammar.scanWords_cons rfl, Grammar.scanWord_operand rfl (looksLikeOption_kindName kind)]
  simp only [Grammar.scanOperand, Grammar.start, Scan.await, Scan.settle, Scan.fill, bind,
    Except.bind, Option.map]
  rw [Grammar.scanWords_cons rfl, Grammar.scanWord_operand rfl (looksLikeOption_hexText bytes)]
  simp only [Grammar.scanOperand, Scan.await, Scan.settle, Scan.fill, bind, Except.bind,
    Option.map, ownStore, find?_kindName, Except.map, List.contains_nil, Bool.false_eq_true,
    if_false]
  rw [Grammar.scanWords_cons rfl, Grammar.scanWord_format rfl rfl]
  simp only [Grammar.scanOption, sharedOptions, flag, choiceOption, Scan.await, Scan.settle,
    ownStore, bind, Except.bind, Except.map, List.cons_append, List.nil_append,
    String.reduceBEq, Bool.false_eq_true, not_false_eq_true, List.find?_cons_of_neg, BEq.rfl,
    List.find?_cons_of_pos, List.contains_eq_mem, List.mem_cons, String.reduceEq,
    List.not_mem_nil, or_self, decide_false, if_false]
  rw [Grammar.scanWords_cons rfl,
    Grammar.scanWord_value rfl (looksLikeOption_formatName format)]
  simp only [Scan.fill, Option.map, bind, Except.bind]
  cases policy with
  | permissive =>
      simp only [Grammar.scanWords, find?_formatName, List.mem_cons, String.reduceEq,
        List.not_mem_nil, or_self, decide_false, Bool.false_eq_true, if_false]
      rfl
  | strict =>
      simp only []
      rw [Grammar.scanWords_cons rfl, Grammar.scanWord_strict rfl rfl]
      simp only [Grammar.scanOption, Grammar.scanWords, Scan.set, Scan.settle,
        find?_formatName, BEq.rfl, List.find?_cons_of_pos, List.contains_eq_mem, List.mem_cons,
        String.reduceEq, List.not_mem_nil, or_self, decide_false, Bool.false_eq_true, if_false,
        bind, Except.bind]
      rfl

end CommandLine

end RadioMesh
