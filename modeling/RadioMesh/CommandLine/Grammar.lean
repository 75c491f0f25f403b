/-!
# Arguments of one level of a command line

The words after a command are read from left to right.  An option is written
`--name`, a value follows as the next word or after an equals sign, and a
double hyphen ends the options.  A word that is given as a value is kept until
the next option, operand or the end shows that it is complete, and is checked
then; a word that nothing accepts is reported at once.
-/

namespace RadioMesh.CommandLine

/-- Why the arguments form no command, or what they ask for instead of one. -/
inductive UsageError
  /-- A value is missing, empty where it must not be, or not among the choices. -/
  | invalidValue (name : String)
  /-- A value is not in the form or range of its option. -/
  | refusedValue (name : String)
  | unknownArgument (word : String)
  | unknownCommand (word : String)
  | missingArguments
  | givenTwice (name : String)
  | surplusValue (name : String)
  | noArguments
  | missingCommand
  | helpRequested
  | versionRequested
  deriving DecidableEq, Repr

/-- How the value of an option or operand is checked and put into the settings. -/
abbrev Store (σ : Type) := String → σ → Except UsageError σ

inductive Action (σ : Type)
  | set (apply : σ → σ)
  /-- Takes a value, which may look like an option if `hyphens` is set. -/
  | value (hyphens : Bool) (store : Store σ)
  | stop (reason : UsageError)

structure OptionSpec (σ : Type) where
  name : String
  action : Action σ

/-- An operand, which is known by its position. -/
structure Operand (σ : Type) where
  name : String
  store : Store σ

/-- The options, one-letter options, operands and commands of a level. -/
structure Grammar (σ : Type) where
  options : List (OptionSpec σ)
  letters : List (Char × UsageError)
  operands : List (Operand σ)
  commands : List String

/-- An option or operand whose value is not yet checked. -/
structure Pending (σ : Type) where
  name : String
  hyphens : Bool
  store : Store σ
  word : Option String

/-- What has been understood so far. -/
structure Scan (σ : Type) where
  settings : σ
  given : List String
  pending : Option (Pending σ)
  operands : List (Operand σ)
  /-- A double hyphen has ended the options. -/
  ended : Bool

namespace Scan

variable {σ : Type}

/-- Whether the next word is the value of an option. -/
def awaits (scan : Scan σ) : Bool :=
  match scan.pending with
  | some ⟨_, _, _, none⟩ => !scan.ended
  | _ => false

/-- Whether the next word is the value of an option, whatever it looks like. -/
def awaitsAnything (scan : Scan σ) : Bool :=
  match scan.pending with
  | some ⟨_, hyphens, _, none⟩ => !scan.ended && hyphens
  | _ => false

/-- Takes a word as the value of the option that waits for one. -/
def fill (scan : Scan σ) (word : String) : Scan σ :=
  { scan with pending := scan.pending.map fun pending => { pending with word := some word } }

/-- Checks the value that has been kept. -/
def settle (scan : Scan σ) : Except UsageError (Scan σ) :=
  match scan.pending with
  | none => .ok scan
  | some ⟨name, _, _, none⟩ => .error (.invalidValue name)
  | some ⟨name, _, store, some word⟩ =>
      if scan.given.contains name then .error (.givenTwice name)
      else
        match store word scan.settings with
        | .error error => .error error
        | .ok settings =>
            .ok { scan with settings := settings, given := name :: scan.given, pending := none }

/-- Checks the value that has been kept, and then waits for another one. -/
def await (scan : Scan σ) (name : String) (hyphens : Bool) (store : Store σ) :
    Except UsageError (Scan σ) :=
  match scan.settle with
  | .error error => .error error
  | .ok settled => .ok { settled with pending := some ⟨name, hyphens, store, none⟩ }

def set (scan : Scan σ) (name : String) (apply : σ → σ) : Except UsageError (Scan σ) :=
  match scan.settle with
  | .error error => .error error
  | .ok settled =>
      if settled.given.contains name then .error (.givenTwice name)
      else
        .ok { settled with settings := apply settled.settings, given := name :: settled.given }

def stop (scan : Scan σ) (reason : UsageError) : Except UsageError (Scan σ) :=
  match scan.settle with
  | .error error => .error error
  | .ok _ => .error reason

end Scan

namespace Grammar

variable {σ : Type}

def start (grammar : Grammar σ) (settings : σ) : Scan σ :=
  ⟨settings, [], none, grammar.operands, false⟩

/-- Reads an option with its name, and the value after the equals sign if there
is one. -/
def scanOption (grammar : Grammar σ) (scan : Scan σ) (word name : String)
    (attached : Option String) : Except UsageError (Scan σ) :=
  match grammar.options.find? (fun option => option.name == name), attached with
  | none, _ => .error (.unknownArgument word)
  | some ⟨_, .value hyphens store⟩, none => scan.await name hyphens store
  | some ⟨_, .value hyphens store⟩, some value =>
      match scan.await name hyphens store with
      | .error error => .error error
      | .ok waiting => (waiting.fill value).settle
  | some ⟨_, .set apply⟩, none => scan.set name apply
  | some ⟨_, .stop reason⟩, none => scan.stop reason
  | some _, some _ => .error (.surplusValue name)

def scanOperand (grammar : Grammar σ) (scan : Scan σ) (word : String) :
    Except UsageError (Scan σ) :=
  match scan.operands with
  | operand :: later =>
      match scan.await operand.name false operand.store with
      | .error error => .error error
      | .ok waiting => .ok { waiting.fill word with operands := later }
  | [] =>
      if grammar.commands.isEmpty || grammar.commands.contains word then
        .error (.unknownArgument word)
      else .error (.unknownCommand word)

/-- Whether a word looks like an option.  A single hyphen is an operand. -/
def looksLikeOption (word : String) : Bool :=
  match word.toList with
  | '-' :: _ :: _ => true
  | _ => false

/-- Reads a word that is no command. -/
def scanWord (grammar : Grammar σ) (scan : Scan σ) (word : String) :
    Except UsageError (Scan σ) :=
  if scan.awaits && (scan.awaitsAnything || !looksLikeOption word) then .ok (scan.fill word)
  else if scan.ended then grammar.scanOperand scan word
  else
    match word.toList with
    | ['-', '-'] => .ok { scan with ended := true }
    | '-' :: '-' :: body =>
        let name := String.ofList (body.takeWhile (· ≠ '='))
        match body.dropWhile (· ≠ '=') with
        | _ :: value => grammar.scanOption scan word name (some (String.ofList value))
        | [] => grammar.scanOption scan word name none
    | '-' :: letter :: _ =>
        match grammar.letters.lookup letter with
        | some reason => scan.stop reason
        | none => .error (.unknownArgument word)
    | _ => grammar.scanOperand scan word

/-- Reads words up to a command or to the end.  The value that is kept then is
not yet checked. -/
def scanWords (grammar : Grammar σ) (scan : Scan σ) :
    List String → Except UsageError (Scan σ × Option (String × List String))
  | [] => .ok (scan, none)
  | word :: rest =>
      if !scan.ended && !scan.awaits && grammar.commands.contains word then
        .ok (scan, some (word, rest))
      else
        match grammar.scanWord scan word with
        | .error error => .error error
        | .ok next => grammar.scanWords next rest

end Grammar

end RadioMesh.CommandLine
