import RadioMesh.CommandLine.Grammar
import RadioMesh.Log.Line
import RadioMesh.Output.Format
import RadioMesh.Request
import RadioMesh.Text.Numeral

/-!
# The command line

The commands with their options and operands, and the request that the words of
a command line make.  The options about output and logging are shared by all
levels; where several levels give one, the innermost counts.
-/

namespace RadioMesh.CommandLine

open Text

structure Shared where
  format : Option OutputFormat := none
  logFormat : Option LogFormat := none
  logLevel : Option Level := none
  deriving DecidableEq, Repr

/-- The options of an inner level, completed by those of the level around it. -/
def Shared.within (inner outer : Shared) : Shared :=
  ⟨inner.format <|> outer.format, inner.logFormat <|> outer.logFormat,
    inner.logLevel <|> outer.logLevel⟩

/-- The settings of a level: its own, and the shared ones. -/
structure Settings (σ : Type) where
  own : σ
  shared : Shared

structure Invocation where
  request : Request
  shared : Shared
  deriving DecidableEq, Repr

abbrev Reader := List String → Except UsageError Invocation

section Options

variable {σ : Type}

/-- Puts a value into the settings that a level has of its own. -/
def ownStore (store : String → σ → Except UsageError σ) : Store (Settings σ) :=
  fun word settings => (store word settings.own).map fun own => { settings with own := own }

/-- An option that stands for itself. -/
def flag (name : String) (apply : σ → σ) : OptionSpec (Settings σ) :=
  ⟨name, .set fun settings => { settings with own := apply settings.own }⟩

def textOption (name : String) (put : String → σ → σ) : OptionSpec (Settings σ) :=
  ⟨name, .value false (ownStore fun word own => .ok (put word own))⟩

/-- Checks a path, which is any text but the empty one. -/
def pathStore (name : String) (put : String → σ → σ) : Store (Settings σ) :=
  ownStore fun word own =>
    if word.isEmpty then .error (.invalidValue name) else .ok (put word own)

def pathOption (name : String) (put : String → σ → σ) : OptionSpec (Settings σ) :=
  ⟨name, .value false (pathStore name put)⟩

/-- An option whose value is a numeral up to a limit. -/
def numeralOption (name : String) (limit : Nat) (put : Nat → σ → σ) :
    OptionSpec (Settings σ) :=
  ⟨name, .value false (ownStore fun word own =>
    match Numeral.parse limit word with
    | .ok value => .ok (put value own)
    | .error _ => .error (.refusedValue name))⟩

/-- An option whose value is a plain integer in a range. -/
def integerOption (name : String) (low high : Int) (put : Int → σ → σ) :
    OptionSpec (Settings σ) :=
  ⟨name, .value (low < 0) (ownStore fun word own =>
    match Numeral.integer? low high word with
    | some value => .ok (put value own)
    | none => .error (.refusedValue name))⟩

/-- A shared option whose value is one of some names. -/
def choiceOption {κ : Type} (name : String) (choices : List κ) (nameOf : κ → String)
    (put : κ → Shared → Shared) : OptionSpec (Settings σ) :=
  ⟨name, .value false fun word settings =>
    match choices.find? fun choice => nameOf choice == word with
    | some choice => .ok { settings with shared := put choice settings.shared }
    | none => .error (.invalidValue name)⟩

def sharedOptions : List (OptionSpec (Settings σ)) :=
  [choiceOption "format" OutputFormat.all OutputFormat.name fun choice shared =>
      { shared with format := some choice },
    choiceOption "log-format" LogFormat.all LogFormat.name fun choice shared =>
      { shared with logFormat := some choice },
    choiceOption "log-level" Level.all Level.name fun choice shared =>
      { shared with logLevel := some choice },
    ⟨"help", .stop .helpRequested⟩]

def sharedLetters : List (Char × UsageError) := [('h', .helpRequested)]

/-- Reads the words of a command that makes a request once its settings are
complete. -/
def readCommand (options : List (OptionSpec (Settings σ)))
    (operands : List (Operand (Settings σ))) (initial : σ) (finish : σ → Option Request) :
    Reader := fun words => do
  let grammar : Grammar (Settings σ) :=
    ⟨options ++ sharedOptions, sharedLetters, operands, []⟩
  let (scan, _) ← grammar.scanWords (grammar.start ⟨initial, {}⟩) words
  let settled ← scan.settle
  match finish settled.settings.own with
  | some request => .ok ⟨request, settled.settings.shared⟩
  | none => .error .missingArguments

end Options

/-- Answers the words after `help`, which must name a command. -/
inductive HelpTree
  | node (commands : List (String × HelpTree))

namespace HelpTree

def leaf : HelpTree := node []

/-- What the words after `help` ask for. -/
def answer : HelpTree → List String → UsageError
  | _, [] => .helpRequested
  | node commands, word :: rest =>
      match commands.find? fun command => command.1 == word with
      | some (_, tree) => tree.answer rest
      | none => .unknownCommand word

end HelpTree

/-- Reads the words of a level that leads on to commands. -/
def readLevel (letters : List (Char × UsageError)) (options : List (OptionSpec (Settings Unit)))
    (commands : List (String × Reader)) (help : HelpTree) : Reader := fun words => do
  let grammar : Grammar (Settings Unit) :=
    ⟨options ++ sharedOptions, letters ++ sharedLetters, [],
      "help" :: commands.map Prod.fst⟩
  let (scan, command) ← grammar.scanWords (grammar.start ⟨(), {}⟩) words
  match command with
  | none =>
      let settled ← scan.settle
      .error (if settled.given.isEmpty then .noArguments else .missingCommand)
  | some (name, rest) =>
      match commands.lookup name with
      | none => .error (help.answer rest)
      | some read =>
          let inner ← read rest
          let settled ← scan.settle
          .ok { inner with shared := inner.shared.within settled.settings.shared }

def everybody : String := "00:00:00:00:00:00"

def byteLimit : Nat := 255

def wordLimit : Nat := 65535

structure DecodeDraft where
  kind : Option RecordKind := none
  hex : Option String := none
  strict : Bool := false

def readDecode : Reader :=
  readCommand (σ := DecodeDraft)
    [flag "strict" fun draft => { draft with strict := true }]
    [⟨"kind", ownStore fun word draft =>
        match RecordKind.all.find? fun kind => kind.name == word with
        | some kind => .ok { draft with kind := some kind }
        | none => .error (.invalidValue "kind")⟩,
      ⟨"hex", ownStore fun word draft => .ok { draft with hex := some word }⟩]
    {}
    fun draft => do
      let kind ← draft.kind
      let hex ← draft.hex
      some (.decode ⟨kind, hex, if draft.strict then .strict else .permissive⟩)

structure FrameDraft where
  opcode : Option UInt8 := none
  handle : UInt16 := 0
  data : String := ""
  dataLength : Option UInt8 := none
  append : Option String := none

def readFrameFields : Reader :=
  readCommand (σ := FrameDraft)
    [numeralOption "opcode" byteLimit fun value draft =>
        { draft with opcode := some (UInt8.ofNat value) },
      numeralOption "handle" wordLimit fun value draft =>
        { draft with handle := UInt16.ofNat value },
      textOption "data" fun word draft => { draft with data := word },
      numeralOption "data-length" byteLimit fun value draft =>
        { draft with dataLength := some (UInt8.ofNat value) },
      pathOption "append" fun word draft => { draft with append := some word }]
    [] {}
    fun draft => draft.opcode.map fun opcode =>
      .encode (.frame ⟨opcode, draft.handle, draft.data, draft.dataLength, draft.append⟩)

structure HubDraft where
  opcode : UInt8 := 0
  handle : UInt16 := 0
  source : String := everybody
  messageType : Option UInt16 := none
  payload : String := ""
  append : Option String := none

def readHubFields : Reader :=
  readCommand (σ := HubDraft)
    [numeralOption "opcode" byteLimit fun value draft =>
        { draft with opcode := UInt8.ofNat value },
      numeralOption "handle" wordLimit fun value draft =>
        { draft with handle := UInt16.ofNat value },
      textOption "source" fun word draft => { draft with source := word },
      numeralOption "type" wordLimit fun value draft =>
        { draft with messageType := some (UInt16.ofNat value) },
      textOption "payload" fun word draft => { draft with payload := word },
      pathOption "append" fun word draft => { draft with append := some word }]
    [] {}
    fun draft => draft.messageType.map fun messageType =>
      .encode (.hub ⟨draft.opcode, draft.handle, draft.source, messageType, draft.payload,
        draft.append⟩)

structure ConfigDraft where
  kind : Option UInt8 := none
  payload : String := ""

def readConfigFields : Reader :=
  readCommand (σ := ConfigDraft)
    [numeralOption "type" byteLimit fun value draft =>
        { draft with kind := some (UInt8.ofNat value) },
      textOption "payload" fun word draft => { draft with payload := word }]
    [] {}
    fun draft => draft.kind.map fun kind => .encode (.config ⟨kind, draft.payload⟩)

structure TrackedDraft where
  address : Option String := none
  rssi : Option Int8 := none

def readTrackedFields : Reader :=
  readCommand (σ := TrackedDraft)
    [textOption "address" fun word draft => { draft with address := some word },
      integerOption "rssi" (-128) 127 fun value draft =>
        { draft with rssi := some (Int8.ofInt value) }]
    [] {}
    fun draft => do
      let address ← draft.address
      let rssi ← draft.rssi
      some (.encode (.tracked ⟨address, rssi⟩))

structure CommandDraft where
  channel : UInt8 := 2
  target : String := everybody
  messageType : Option UInt16 := none
  payload : String := ""

def readCommandFields : Reader :=
  readCommand (σ := CommandDraft)
    [numeralOption "channel" byteLimit fun value draft =>
        { draft with channel := UInt8.ofNat value },
      textOption "target" fun word draft => { draft with target := word },
      numeralOption "type" wordLimit fun value draft =>
        { draft with messageType := some (UInt16.ofNat value) },
      textOption "payload" fun word draft => { draft with payload := word }]
    [] {}
    fun draft => draft.messageType.map fun messageType =>
      .encode (.command ⟨draft.channel, draft.target, messageType, draft.payload⟩)

structure DumpDraft where
  path : Option String := none
  asHub : Bool := false
  count : Option Nat := none

def readDump : Reader :=
  readCommand (σ := DumpDraft)
    [flag "hub" fun draft => { draft with asHub := true },
      integerOption "count" 0 18446744073709551615 fun value draft =>
        { draft with count := some value.toNat }]
    [⟨"path", pathStore "path" fun word draft => { draft with path := some word }⟩]
    {}
    fun draft => draft.path.map fun path => .dump ⟨path, draft.asHub, draft.count⟩

structure TimeDraft where
  stamp : Option UInt16 := none
  reference : Option Int64 := none
  utcOffset : Option Int32 := none

def readReconstruct : Reader :=
  readCommand (σ := TimeDraft)
    [numeralOption "partial" wordLimit fun value draft =>
        { draft with stamp := some (UInt16.ofNat value) },
      integerOption "reference" (-9223372036854775808) 9223372036854775807 fun value draft =>
        { draft with reference := some (Int64.ofInt value) },
      integerOption "utc-offset" (-2147483648) 2147483647 fun value draft =>
        { draft with utcOffset := some (Int32.ofInt value) }]
    [] {}
    fun draft => draft.stamp.map fun stamp =>
      .reconstruct ⟨stamp, draft.reference, draft.utcOffset⟩

def readVersion : Reader :=
  readCommand (σ := Bool) [flag "extended" fun _ => true] [] false
    fun extended => some (.version extended)

def encodeCommands : List (String × Reader) :=
  [("frame", readFrameFields), ("hub", readHubFields), ("config", readConfigFields),
    ("tracked", readTrackedFields), ("command", readCommandFields)]

def encodeHelp : HelpTree :=
  .node (("help", .leaf) :: encodeCommands.map fun command => (command.1, .leaf))

def readEncode : Reader := readLevel [] [] encodeCommands encodeHelp

def commands : List (String × Reader) :=
  [("decode", readDecode), ("encode", readEncode), ("dump", readDump),
    ("reconstruct", readReconstruct), ("version", readVersion)]

def helpTree : HelpTree :=
  .node [("help", .leaf), ("decode", .leaf), ("encode", encodeHelp), ("dump", .leaf),
    ("reconstruct", .leaf), ("version", .leaf)]

def read : Reader :=
  readLevel [('V', .versionRequested)] [⟨"version", .stop .versionRequested⟩] commands helpTree

end RadioMesh.CommandLine
