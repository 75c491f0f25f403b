import RadioMesh.Proofs.Address
import RadioMesh.Proofs.Conversion
import RadioMesh.Proofs.Program.Decoding
import RadioMesh.Proofs.Record.Acceptance
import RadioMesh.Proofs.Text.SeparatedHex

/-!
# The exit codes of decoding and encoding

A request to decode or to encode reads all of its texts before it works on what they give, and
shows something only when nothing can fail any more.  So the exit code tells a malformed text
from bytes that form no record, and a request that fails has printed nothing.
-/

namespace RadioMesh

open Text

/-- Pairs of digits that spell these bytes are left of a text. -/
def Text.HexInput.Gives (text : String) (bytes : Bytes) : Prop :=
  ∃ digits, StripsTo text.toList digits ∧ Hex.Spells digits bytes

namespace Request

/-- The text of a request that is to give bytes. -/
def hexText? : Request → Option String
  | decode request => some request.hex
  | encode (.frame fields) => some fields.data
  | encode (.hub fields) => some fields.payload
  | encode (.config fields) => some fields.payload
  | encode (.command fields) => some fields.payload
  | _ => none

/-- The text of a request that is to give an address. -/
def addressText? : Request → Option String
  | encode (.hub fields) => some fields.source
  | encode (.tracked fields) => some fields.address
  | encode (.command fields) => some fields.target
  | _ => none

/-- The bytes are a record that can be decoded, or they are not too many for one. -/
def Takes (bytes : Bytes) : Request → Prop
  | decode request => request.kind.Decodes request.policy bytes
  | encode (.frame _) => bytes.length ≤ 255
  | encode (.hub _) => bytes.length ≤ 247
  | encode (.config _) => bytes.length ≤ 65535
  | encode (.command _) => bytes.length ≤ 65527
  | _ => True

/-- A text of the request gives no bytes, or no address. -/
def Malformed (request : Request) : Prop :=
  (∃ text ∈ request.addressText?, ∀ address : Address, ¬address.IsSpelledBy text.toList) ∨
    ∃ text ∈ request.hexText?, ∀ bytes, ¬HexInput.Gives text bytes

/-- A text of the request gives bytes that it does not take. -/
def Unfit (request : Request) : Prop :=
  ∃ text ∈ request.hexText?, ∃ bytes, HexInput.Gives text bytes ∧ ¬request.Takes bytes

/-- The request decodes a record, or it encodes one and puts it into no capture. -/
inductive Converts : Request → Prop where
  | decode (request : DecodeRequest) :
      Converts (.decode request)
  | encode {request : EncodeRequest} :
      request.capture? = none →
      Converts (.encode request)

end Request

/-- A frame with the length that is to be declared in it, if there is one. -/
def FrameFields.declare (fields : FrameFields) (frame : Frame) : Frame :=
  { frame with dataLength := fields.dataLength.getD frame.dataLength }

namespace Conversion

/-- How work ends that looks at malformed texts first and at unfit bytes then. -/
inductive Ends {α : Type} (malformed unfit : Prop) : Except Failure α → Prop where
  | badArgument {failure : Failure} :
      malformed →
      failure.exitCode = ExitCode.badArgument →
      Ends malformed unfit (.error failure)
  | dataInvalid {failure : Failure} :
      ¬malformed →
      unfit →
      failure.exitCode = ExitCode.dataInvalid →
      Ends malformed unfit (.error failure)
  | success {value : α} :
      ¬malformed →
      ¬unfit →
      Ends malformed unfit (.ok value)

/-- A text is read as what it gives, and a text that gives nothing is malformed. -/
structure Reads {α : Type} (gives : α → Prop) (attempt : Except Failure α) : Prop where
  given : ∀ value, attempt = .ok value ↔ gives value
  malformed : ∀ failure, attempt = .error failure → failure.exitCode = ExitCode.badArgument

section

variable {α β : Type} {malformed unfit : Prop}

theorem Ends.map {result : Except Failure α} (ends : Ends malformed unfit result)
    (change : α → β) : Ends malformed unfit (result.map change) := by
  cases ends with
  | badArgument flawed code => exact .badArgument flawed code
  | dataInvalid plain fails code => exact .dataInvalid plain fails code
  | success plain fits => exact .success plain fits

theorem Ends.congr {otherMalformed otherUnfit : Prop} {result : Except Failure α}
    (ends : Ends malformed unfit result) (texts : malformed ↔ otherMalformed)
    (bytes : unfit ↔ otherUnfit) : Ends otherMalformed otherUnfit result :=
  propext texts ▸ propext bytes ▸ ends

/-- To read a text before other work adds one more text that may be malformed. -/
theorem Reads.ends_bind {gives : α → Prop} {attempt : Except Failure α}
    {next : α → Except Failure β} (reads : Reads gives attempt)
    (each : ∀ value, gives value → Ends malformed unfit (next value)) :
    Ends ((∀ value, ¬gives value) ∨ malformed) unfit (attempt.bind next) := by
  cases read : attempt with
  | error failure =>
      refine .badArgument (.inl ?_) (reads.malformed failure read)
      intro value given
      rw [(reads.given value).mpr given] at read
      cases read
  | ok value =>
      have given := (reads.given value).mp read
      refine (each value given).congr ?_ Iff.rfl
      exact (or_iff_right fun nothing => nothing value given).symm

theorem ends_of_judgedBy {sound : Prop} {result : Except WireError α}
    (judged : JudgedBy sound result) (same : ¬sound ↔ unfit) (context : String) :
    Ends False unfit (result.mapError (.wire context)) := by
  cases judged with
  | accepted holds => exact .success not_false fun fails => same.mpr fails holds
  | refused fails invalid => exact .dataInvalid not_false (same.mp fails) invalid

end

theorem reads_bytesOf (text : String) : Reads (HexInput.Gives text) (bytesOf text) := by
  constructor
  · intro bytes
    simp only [HexInput.Gives, HexInput.stripsTo_iff, exists_eq_left]
    exact bytesOf_eq_ok_iff
  · intro failure failed
    obtain ⟨flaw, _, rfl⟩ := bytesOf_eq_error_iff.mp failed
    rfl

theorem reads_addressOf (text : String) :
    Reads (fun address : Address => address.IsSpelledBy text.toList) (addressOf text) := by
  constructor
  · intro address
    rw [← Address.parse_eq_ok_iff, addressOf]
    cases Address.parse text <;> simp [Except.mapError]
  · intro failure failed
    rw [addressOf] at failed
    cases parsed : Address.parse text with
    | error error =>
        rw [parsed] at failed
        cases failed
        obtain ⟨rfl, _⟩ := Address.parse_eq_error_iff.mp parsed
        rfl
    | ok address =>
        rw [parsed] at failed
        cases failed

/-- Work on the bytes that a text gives fails on those that it does not take. -/
theorem ends_bytesOf_bind {α : Type} {text : String} {takes : Bytes → Prop}
    {next : Bytes → Except WireError α} (judged : ∀ bytes, JudgedBy (takes bytes) (next bytes))
    (context : String) :
    Ends ((∀ bytes, ¬HexInput.Gives text bytes) ∨ False)
      (∃ bytes, HexInput.Gives text bytes ∧ ¬takes bytes)
      ((bytesOf text).bind fun bytes => (next bytes).mapError (.wire context)) := by
  have reads := reads_bytesOf text
  apply reads.ends_bind
  intro bytes given
  refine ends_of_judgedBy (judged bytes) ⟨fun fails => ⟨bytes, given, fails⟩, ?_⟩ context
  rintro ⟨other, same, fails⟩
  have one := ((reads.given bytes).mpr given).symm.trans ((reads.given other).mpr same)
  rwa [Except.ok.inj one]

section

variable {α : Type} {name text : String}

/-- A request that works on the bytes of its only text. -/
theorem ends_of_hexText {next : Bytes → Except WireError α} (request : Request)
    (nameless : request.addressText? = none) (given : request.hexText? = some text)
    (judged : ∀ bytes, JudgedBy (request.Takes bytes) (next bytes)) (context : String) :
    Ends request.Malformed request.Unfit
      ((bytesOf text).bind fun bytes => (next bytes).mapError (.wire context)) := by
  apply (ends_bytesOf_bind judged context).congr
  · simp [Request.Malformed, nameless, given]
  · simp [Request.Unfit, given]

/-- A request that works on an address and on bytes, each of which has its own text. -/
theorem ends_of_texts {next : Address → Bytes → Except WireError α} (request : Request)
    (named : request.addressText? = some name) (given : request.hexText? = some text)
    (judged : ∀ address bytes, JudgedBy (request.Takes bytes) (next address bytes))
    (context : String) :
    Ends request.Malformed request.Unfit
      ((addressOf name).bind fun address => (bytesOf text).bind fun bytes =>
        (next address bytes).mapError (.wire context)) := by
  have later (address : Address) (_ : address.IsSpelledBy name.toList) :=
    @ends_bytesOf_bind α text _ _ (judged address) context
  apply ((reads_addressOf name).ends_bind later).congr
  · simp [Request.Malformed, named, given]
  · simp [Request.Unfit, given]

end

theorem judgedBy_viewOf (kind : RecordKind) (policy : LengthPolicy) (wire : Bytes) :
    JudgedBy (kind.Decodes policy wire) (viewOf policy wire kind).result := by
  rw [kind.decodes_iff_fits]
  cases kind with
  | address => exact (Address.judgedBy_decode wire).map View.address
  | frame =>
      rw [viewOf, Attempt.result_map]
      exact (Frame.judgedBy_decode policy wire).map View.frame
  | hub =>
      rw [result_viewOf_hub]
      apply HubMessage.judgedBy_decode_bind
      intro message
      exact message.judgedBy_body.map (View.hub message)
  | config =>
      rw [viewOf, Attempt.result_map]
      exact (ConfigRecord.judgedBy_decode wire).map View.config
  | tracked => exact (TrackedDevice.judgedBy_decode wire).map View.tracked
  | trackedList => exact (TrackedDevice.judgedBy_decodeList wire).map View.trackedList
  | command =>
      rw [viewOf, Attempt.result_map]
      exact (MeshCommand.judgedBy_decode policy wire).map View.command

theorem ends_decode (request : DecodeRequest) :
    Ends (Request.decode request).Malformed (Request.decode request).Unfit
      (decode request).result := by
  have whole : (decode request).result = (bytesOf request.hex).bind fun bytes =>
      (viewOf request.policy bytes request.kind).result.mapError (.wire "decode failed") := by
    rw [decode, Attempt.result_bind]
    rfl
  rw [whole]
  exact ends_of_hexText (.decode request) rfl rfl (judgedBy_viewOf request.kind request.policy) _

theorem frameOf_eq (fields : FrameFields) :
    frameOf fields = (bytesOf fields.data).bind fun data =>
      ((Frame.ofData fields.opcode fields.handle data).map fields.declare).mapError
        (.wire "encode failed") := by
  change (bytesOf fields.data).bind _ = _
  congr 1
  funext data
  cases Frame.ofData fields.opcode fields.handle data with
  | error error => rfl
  | ok frame =>
      cases declared : fields.dataLength with
      | none =>
          have kept : fields.declare frame = frame := by
            rw [FrameFields.declare, declared, Option.getD_none]
          simp only [Except.map, kept]
          rfl
      | some dataLength =>
          have changed : fields.declare frame = { frame with dataLength := dataLength } := by
            rw [FrameFields.declare, declared, Option.getD_some]
          simp only [Except.map, changed]
          rfl

theorem ends_frameOf (fields : FrameFields) :
    Ends (Request.encode (.frame fields)).Malformed (Request.encode (.frame fields)).Unfit
      (frameOf fields) := by
  have judged := fun data =>
    (Frame.judgedBy_ofData fields.opcode fields.handle data).map fields.declare
  rw [frameOf_eq]
  exact ends_of_hexText (.encode (.frame fields)) rfl rfl judged _

theorem ends_hubFrameOf (fields : HubFields) :
    Ends (Request.encode (.hub fields)).Malformed (Request.encode (.hub fields)).Unfit
      (hubFrameOf fields) := by
  have judged := fun source =>
    HubMessage.judgedBy_toFrame fields.opcode fields.handle source fields.messageType
  exact ends_of_texts (.encode (.hub fields)) rfl rfl judged _

theorem ends_configBytesOf (fields : ConfigFields) :
    Ends (Request.encode (.config fields)).Malformed (Request.encode (.config fields)).Unfit
      (configBytesOf fields) := by
  have whole : configBytesOf fields = (bytesOf fields.payload).bind fun payload =>
      ((ConfigRecord.ofPayload fields.kind payload).bind ConfigRecord.encode).mapError
        (.wire "encode failed") := by
    change (bytesOf fields.payload).bind _ = _
    congr 1
    funext payload
    cases ConfigRecord.ofPayload fields.kind payload <;> rfl
  rw [whole]
  exact ends_of_hexText (.encode (.config fields)) rfl rfl
    (ConfigRecord.judgedBy_ofPayload_bind_encode fields.kind) _

theorem ends_trackedBytesOf (fields : TrackedFields) :
    Ends (Request.encode (.tracked fields)).Malformed (Request.encode (.tracked fields)).Unfit
      (trackedBytesOf fields) := by
  have ends : Ends _ False (trackedBytesOf fields) :=
    (reads_addressOf fields.address).ends_bind fun _ _ => .success not_false not_false
  apply ends.congr
  · simp [Request.Malformed, Request.addressText?, Request.hexText?]
  · simp [Request.Unfit, Request.hexText?]

theorem ends_commandBytesOf (fields : CommandFields) :
    Ends (Request.encode (.command fields)).Malformed (Request.encode (.command fields)).Unfit
      (commandBytesOf fields) := by
  have judged := fun target =>
    MeshCommand.judgedBy_encode fields.channel target fields.messageType
  exact ends_of_texts (.encode (.command fields)) rfl rfl judged _

/-- A record that is put into no capture is shown as soon as it is built. -/
theorem result_encodeFrame_none (directory : Directory) (kind : RecordKind)
    (built : Except Failure Frame) :
    (encodeFrame directory kind built none).2.result =
      built.map fun frame => .encoded kind frame.encode := by
  cases built <;> rfl

theorem result_encodeBytes (kind : RecordKind) (built : Except Failure Bytes) :
    (encodeBytes kind built).result = built.map (.encoded kind) := by
  cases built <;> rfl

theorem ends_encode {request : EncodeRequest} (alone : request.capture? = none)
    (directory : Directory) :
    Ends (Request.encode request).Malformed (Request.encode request).Unfit
      (encode directory request).2.result := by
  cases request with
  | frame fields =>
      have named : fields.append = none := alone
      rw [encode, named, result_encodeFrame_none]
      exact (ends_frameOf fields).map _
  | hub fields =>
      have named : fields.append = none := alone
      rw [encode, named, result_encodeFrame_none]
      exact (ends_hubFrameOf fields).map _
  | config fields =>
      rw [encode, result_encodeBytes]
      exact (ends_configBytesOf fields).map _
  | tracked fields =>
      rw [encode, result_encodeBytes]
      exact (ends_trackedBytesOf fields).map _
  | command fields =>
      rw [encode, result_encodeBytes]
      exact (ends_commandBytesOf fields).map _

end Conversion

namespace Program

variable {environment : Environment} {words : List String} {request : Request}
  {shared : CommandLine.Shared}

/-- A conversion is run as one attempt, and nothing is printed beside what it gives. -/
theorem exists_attempt_of_converts (environment : Environment) (converts : request.Converts) :
    ∃ directory attempt, run environment request = .ofAttempt directory attempt ∧
      Conversion.Ends request.Malformed request.Unfit attempt.result := by
  cases converts with
  | decode request => exact ⟨_, _, run_decode environment request, Conversion.ends_decode request⟩
  | encode alone =>
      exact ⟨_, _, run_encode environment _, Conversion.ends_encode alone environment.directory⟩

/-- A request to decode, or to encode without a capture, ends with 64 if a text is malformed,
otherwise with 60 if its bytes are unfit, and otherwise with 0.  It prints only in the last
case.  Bytes can be decoded exactly if their number and the lengths and counts in them fit. -/
theorem exit_code_classifies
    (understood : CommandLine.read words = .ok ⟨request, shared⟩) (converts : request.Converts) :
    let ending := execute environment words
    (ending.code = 64 ↔ request.Malformed) ∧
    (ending.code = 60 ↔ ¬request.Malformed ∧ request.Unfit) ∧
    (ending.code = 0 ↔ ¬request.Malformed ∧ ¬request.Unfit) ∧
    (ending.code ≠ 0 → ending.stdout = []) ∧
    (∀ (kind : RecordKind) policy bytes, kind.Decodes policy bytes ↔ kind.Fits policy bytes) := by
  intro ending
  have fits := RecordKind.decodes_iff_fits
  obtain ⟨directory, attempt, ran, ends⟩ := exists_attempt_of_converts environment converts
  cases result : attempt.result with
  | error failure =>
      have reports := reports_of_error understood ran result
      have code : ending.code = failure.exitCode := reports.code
      have nothing : ending.stdout = [] := reports.stdout
      rw [result] at ends
      cases ends with
      | badArgument malformed bad =>
          simp [code, bad, malformed, nothing, ExitCode.badArgument, fits]
      | dataInvalid plain unfit invalid =>
          simp [code, invalid, plain, unfit, nothing, ExitCode.dataInvalid, fits]
  | ok view =>
      have code : ending.code = 0 := (reports_of_ok understood ran result).code
      rw [result] at ends
      cases ends with
      | success plain fit => simp [code, plain, fit, fits]

/-- A scan result that lacks the device that it counts, and an address of two pairs. -/
theorem exit_code_classifies_of_two_flaws :
    let environment : Environment := ⟨.ofFiles [] [], [], 0, 0, 0, .current, false⟩
    let scan := execute environment ["decode", "hub", "01:0000:09:060504030201:6500:01"]
    let named := execute environment ["encode", "tracked", "--address", "0a:0b", "--rssi", "9"]
    (scan.code = 60 ∧ scan.stdout = []) ∧ (named.code = 64 ∧ named.stdout = []) := by
  intro environment scan named
  have scanRead : CommandLine.read ["decode", "hub", "01:0000:09:060504030201:6500:01"] =
      .ok ⟨.decode ⟨.hub, "01:0000:09:060504030201:6500:01", .permissive⟩, {}⟩ := by rfl
  have namedRead : CommandLine.read ["encode", "tracked", "--address", "0a:0b", "--rssi", "9"] =
      .ok ⟨.encode (.tracked ⟨"0a:0b", 9⟩), {}⟩ := by rfl
  have gives : HexInput.Gives "01:0000:09:060504030201:6500:01"
      [1, 0, 0, 9, 6, 5, 4, 3, 2, 1, 101, 0, 1] :=
    ((Conversion.reads_bytesOf _).given _).mp rfl
  obtain ⟨_, dataInvalid, _, scanSilent, fits⟩ :=
    @exit_code_classifies environment _ _ _ scanRead (.decode _)
  obtain ⟨badArgument, _, _, namedSilent, _⟩ :=
    @exit_code_classifies environment _ _ _ namedRead (.encode rfl)
  have scanCode : scan.code = 60 := by
    apply dataInvalid.mpr
    constructor
    · rintro (⟨text, missing, _⟩ | ⟨text, same, nothing⟩)
      · cases missing
      · cases same
        exact nothing _ gives
    · have refused : ¬RecordKind.hub.Decodes .permissive
          [1, 0, 0, 9, 6, 5, 4, 3, 2, 1, 101, 0, 1] := by
        rw [fits]
        decide
      exact ⟨_, rfl, _, gives, refused⟩
  have namedCode : named.code = 64 := by
    apply badArgument.mpr
    refine .inl ⟨"0a:0b", rfl, ?_⟩
    exact (Address.parse_eq_error_iff.mp (show Address.parse "0a:0b" = .error _ by rfl)).2
  have scanFails : scan.code ≠ 0 := by
    rw [scanCode]
    decide
  have namedFails : named.code ≠ 0 := by
    rw [namedCode]
    decide
  exact ⟨⟨scanCode, scanSilent scanFails⟩, ⟨namedCode, namedSilent namedFails⟩⟩

end Program

end RadioMesh
