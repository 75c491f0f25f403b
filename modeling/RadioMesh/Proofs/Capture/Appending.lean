import RadioMesh.Proofs.Capture.Showing
import RadioMesh.Proofs.Capture.Taking
import RadioMesh.Proofs.Output.Sheet
import RadioMesh.Proofs.Stream.Writing
import Mathlib.Data.List.Forall2

/-!
# Appending to a capture

A capture gains the bytes of a frame or stays as it was, whatever becomes of the
invocation, and it gains them whenever it takes the frame.  After any invocations that
name one capture it holds what it held before and then the records that the successful
ones printed, and these are what it shows.
-/

namespace RadioMesh

namespace Capture

/-- What comes of putting a frame behind a capture: all of its bytes are added, or none
because the path cannot be opened or the frame declares a wrong length. -/
inductive Appends (directory : Directory) (path : String) (frame : Frame) :
    Directory × Attempt Failure Unit → Prop where
  | added {next : Directory} {events : List Event} :
      frame.isConsistent = true →
      directory.Admits path →
      next.contentAt path = directory.contentAt path ++ frame.encode →
      Appends directory path frame (next, ⟨.ok (), events⟩)
  | refused {next : Directory} {failure : Failure} {events : List Event} :
      (frame.isConsistent = true → ¬directory.Admits path) →
      next.contentAt path = directory.contentAt path →
      Appends directory path frame (next, ⟨.error failure, events⟩)

theorem rejection?_eq_none_iff {frame : Frame} :
    FrameWriter.rejection? ⟨{}⟩ frame = none ↔ frame.isConsistent = true := by
  rw [FrameWriter.rejection?_eq_none_iff]
  exact ⟨And.right, fun consistent => ⟨Frame.length_le_of_isConsistent consistent, consistent⟩⟩

theorem appends_append (directory : Directory) (path : String) (frame : Frame) :
    Appends directory path frame (append directory path frame) := by
  unfold append
  cases opened : directory.openForAppending path with
  | error failure =>
      refine .refused (fun _ admits => ?_) rfl
      obtain ⟨target, possible⟩ := Directory.admits_iff.mp admits
      rw [opened] at possible
      cases possible
  | ok target =>
      have admits : directory.Admits path := Directory.admits_iff.mpr ⟨target, opened⟩
      obtain ⟨place, content⟩ := target
      have before := (Directory.locate_of_openForAppending opened).1
      have after := Directory.locate_store_of_openForAppending opened
      cases rejected : FrameWriter.rejection? ⟨{}⟩ frame with
      | some error =>
          simp only [FrameWriter.writeFrame_of_rejection? rejected]
          have inconsistent : ¬frame.isConsistent = true := by
            rw [← rejection?_eq_none_iff, rejected]
            exact Option.some_ne_none error
          refine .refused (fun consistent => absurd consistent inconsistent) ?_
          rw [Directory.contentAt_of_locate (after _), before]
          rfl
      | none =>
          obtain ⟨next, written, _, gained⟩ := FrameWriter.writeFrame_of_obliging
            (Pipe.obliging_ofBytes content) rejected
          simp only [written]
          refine .added (rejection?_eq_none_iff.mp rejected) admits ?_
          rw [Directory.contentAt_of_locate (after _), gained, before]
          rfl

end Capture

namespace Conversion

open EncodeRequest

/-- What comes of encoding a record into a capture: the bytes that are shown are added to
the capture, or nothing is shown and none are, because the request has no frame for it or
its path cannot be opened. -/
inductive Records (directory : Directory) (path : String) (request : EncodeRequest) :
    Directory × Attempt Failure View → Prop where
  | recorded {kind : RecordKind} {frame : Frame} {next : Directory} {events : List Event} :
      Describes request kind frame →
      request.Gives frame →
      frame.isConsistent = true →
      directory.Admits path →
      next.contentAt path = directory.contentAt path ++ frame.encode →
      Records directory path request (next, ⟨.ok (.encoded kind frame.encode), events⟩)
  | refused {next : Directory} {failure : Failure} {events : List Event} :
      (∀ frame, request.Gives frame → ¬directory.Admits path) →
      next.contentAt path = directory.contentAt path →
      Records directory path request (next, ⟨.error failure, events⟩)

theorem records_encodeFrame {request : EncodeRequest} {kind : RecordKind}
    {built : Except Failure Frame}
    (described : ∀ frame, built = .ok frame → Describes request kind frame)
    (given : ∀ frame, request.Gives frame ↔ built = .ok frame ∧ frame.isConsistent = true)
    (directory : Directory) (path : String) :
    Records directory path request (encodeFrame directory kind built (some path)) := by
  cases built with
  | error failure =>
      refine .refused (fun frame gives => ?_) rfl
      cases ((given frame).mp gives).1
  | ok frame =>
      have appends := Capture.appends_append directory path frame
      simp only [encodeFrame]
      generalize Capture.append directory path frame = outcome at appends ⊢
      cases appends with
      | added consistent admits gained =>
          exact .recorded (described frame rfl) ((given frame).mpr ⟨rfl, consistent⟩) consistent
            admits gained
      | refused unopened kept =>
          refine .refused (fun other gives => ?_) kept
          obtain ⟨same, consistent⟩ := (given other).mp gives
          cases same
          exact unopened consistent

theorem records_encode {request : EncodeRequest} {path : String}
    (capture : request.capture? = some path) (directory : Directory) :
    Records directory path request (encode directory request) := by
  cases request with
  | frame fields =>
      have named : fields.append = some path := capture
      simp only [encode, named]
      exact records_encodeFrame (fun _ => describes_of_frameOf) (fun _ => gives_frame_iff)
        directory path
  | hub fields =>
      have named : fields.append = some path := capture
      simp only [encode, named]
      exact records_encodeFrame (fun _ => describes_of_hubFrameOf) (fun _ => gives_hub_iff)
        directory path
  | config fields => cases capture
  | tracked fields => cases capture
  | command fields => cases capture

end Conversion

theorem IoFailure.exitCode_ne_success (failure : IoFailure) :
    failure.exitCode ≠ ExitCode.success := by
  cases failure with
  | worded kind wording => cases kind <;> exact ne_of_beq_false rfl
  | _ => exact ne_of_beq_false rfl

theorem WireError.exitCode_ne_success (error : WireError) :
    error.exitCode ≠ ExitCode.success := by
  cases error with
  | io failure => exact failure.exitCode_ne_success
  | _ => exact ne_of_beq_false rfl

theorem Failure.exitCode_ne_success (failure : Failure) :
    failure.exitCode ≠ ExitCode.success := by
  cases failure with
  | hexInput text flaw => exact ne_of_beq_false rfl
  | wire context error => exact error.exitCode_ne_success
  | opening path failure => exact failure.exitCode_ne_success

@[simp] theorem Outcome.directory_ofAttempt (directory : Directory)
    (attempt : Attempt Failure View) : (ofAttempt directory attempt).directory = directory := by
  unfold ofAttempt
  split <;> rfl

/-- One use of the program.  The directory of its surroundings is the one that earlier
uses have left. -/
structure Turn where
  environment : Environment
  words : List String

namespace Turn

def ending (turn : Turn) (directory : Directory) : Program.Ending :=
  Program.execute { turn.environment with directory := directory } turn.words

/-- The words ask to encode a frame or a hub message into the capture, or they form no
request. -/
def AppendsTo (path : String) (turn : Turn) : Prop :=
  ∀ invocation, CommandLine.read turn.words = .ok invocation →
    ∃ request, invocation.request = .encode request ∧ request.capture? = some path

/-- Whether the words ask for help or for the version in place of a record. -/
def asksForHelp (turn : Turn) : Bool :=
  match CommandLine.read turn.words with
  | .error .helpRequested => true
  | .error .versionRequested => true
  | _ => false

/-- The words describe a frame for a capture, and the path of the capture can be opened. -/
def Appends (turn : Turn) (directory : Directory) (path : String) (frame : Frame) : Prop :=
  directory.Admits path ∧
    ∃ request shared,
      CommandLine.read turn.words = .ok ⟨.encode request, shared⟩ ∧ request.Gives frame

theorem Appends.unique {turn : Turn} {directory : Directory} {path : String}
    {frame other : Frame} (appends : turn.Appends directory path frame)
    (others : turn.Appends directory path other) : frame = other := by
  obtain ⟨_, request, shared, read, gives⟩ := appends
  obtain ⟨_, _, _, otherRead, otherGives⟩ := others
  cases read.symm.trans otherRead
  exact gives.unique otherGives

/-- The frame is the one that the words describe, and its bytes are printed as the
encoded record: as digits, or in the raw format as they are. -/
def Prints (turn : Turn) (ending : Program.Ending) (frame : Frame) : Prop :=
  frame.isConsistent = true ∧
    ∃ invocation request kind,
      CommandLine.read turn.words = .ok invocation ∧
      invocation.request = .encode request ∧
      EncodeRequest.Describes request kind frame ∧
      let format := Program.format invocation turn.environment.terminal
      ending.stdout = (View.encoded kind frame.encode).render format ∧
        (Sheet.encoded kind frame.encode).Printed format ending.stdout

end Turn

structure Use where
  turn : Turn
  ending : Program.Ending

namespace Use

/-- Whether the program did what it was asked for and exits with zero. -/
def succeeded (use : Use) : Bool :=
  use.ending.code == 0 && !use.turn.asksForHelp

end Use

namespace Program

def session (directory : Directory) : List Turn → List Use
  | [] => []
  | turn :: later =>
      ⟨turn, turn.ending directory⟩ :: session (turn.ending directory).directory later

/-- The directory that uses of the program leave. -/
def directoryAfter (directory : Directory) : List Turn → Directory
  | [] => directory
  | turn :: later => directoryAfter (turn.ending directory).directory later

/-- What comes of one use that names a capture. -/
inductive TurnAppends (directory : Directory) (path : String) (turn : Turn) : Prop where
  | recorded {frame : Frame} :
      turn.Appends directory path frame →
      Use.succeeded ⟨turn, turn.ending directory⟩ = true →
      turn.Prints (turn.ending directory) frame →
      (turn.ending directory).directory.contentAt path =
        directory.contentAt path ++ frame.encode →
      TurnAppends directory path turn
  | refused :
      (∀ frame, ¬turn.Appends directory path frame) →
      Use.succeeded ⟨turn, turn.ending directory⟩ = false →
      (turn.ending directory).directory.contentAt path = directory.contentAt path →
      TurnAppends directory path turn

/-- The frames that uses of the program record, one after the other: a use succeeds
exactly if its words describe a frame for the capture that can then be opened. -/
inductive Recorded (path : String) : Directory → List Turn → List Frame → Prop where
  | done (directory : Directory) : Recorded path directory [] []
  | appended {directory : Directory} {turn : Turn} {turns : List Turn} {frame : Frame}
      {frames : List Frame} :
      turn.Appends directory path frame →
      Use.succeeded ⟨turn, turn.ending directory⟩ = true →
      Recorded path (turn.ending directory).directory turns frames →
      Recorded path directory (turn :: turns) (frame :: frames)
  | refused {directory : Directory} {turn : Turn} {turns : List Turn} {frames : List Frame} :
      (∀ frame, ¬turn.Appends directory path frame) →
      Use.succeeded ⟨turn, turn.ending directory⟩ = false →
      Recorded path (turn.ending directory).directory turns frames →
      Recorded path directory (turn :: turns) frames

namespace Recorded

variable {path : String} {directory : Directory} {turn : Turn} {turns : List Turn}
  {frame : Frame} {recorded : List Frame}

theorem of_appends (appends : turn.Appends directory path frame)
    (frames : Recorded path directory (turn :: turns) recorded) :
    ∃ later, recorded = frame :: later ∧
      Recorded path (turn.ending directory).directory turns later := by
  cases frames with
  | @appended _ _ _ other later others _ rest =>
      rw [appends.unique others]
      exact ⟨later, rfl, rest⟩
  | refused nothing _ _ => exact absurd appends (nothing frame)

theorem of_refuses (nothing : ∀ frame, ¬turn.Appends directory path frame)
    (frames : Recorded path directory (turn :: turns) recorded) :
    Recorded path (turn.ending directory).directory turns recorded := by
  cases frames with
  | @appended _ _ _ other _ others _ _ => exact absurd others (nothing other)
  | refused _ _ rest => exact rest

end Recorded

theorem directory_refuse (environment : Environment) (reason : CommandLine.UsageError) :
    (refuse environment reason).directory = environment.directory := by
  cases reason <;> rfl

/-- Encoding into a capture is all that such a use does to the directory. -/
theorem directory_ending_of_encode {turn : Turn} {request : EncodeRequest}
    {shared : CommandLine.Shared}
    (understood : CommandLine.read turn.words = .ok ⟨.encode request, shared⟩)
    (directory : Directory) :
    (turn.ending directory).directory = (Conversion.encode directory request).1 := by
  simp only [Turn.ending, execute, understood, run, Outcome.directory_ofAttempt]

/-- Words that form no request and ask for nothing else are answered by a failure. -/
theorem succeeded_of_read_eq_error {turn : Turn} {reason : CommandLine.UsageError}
    (refused : CommandLine.read turn.words = .error reason) (directory : Directory) :
    Use.succeeded ⟨turn, turn.ending directory⟩ = false := by
  simp only [Use.succeeded, Turn.asksForHelp, Turn.ending, execute, refused]
  cases reason <;> rfl

theorem turnAppends_of_appendsTo {path : String} {turn : Turn} (appending : turn.AppendsTo path)
    (directory : Directory) : TurnAppends directory path turn := by
  cases understood : CommandLine.read turn.words with
  | error reason =>
      refine .refused ?_ (succeeded_of_read_eq_error understood directory) ?_
      · rintro frame ⟨_, request, shared, read, _⟩
        rw [understood] at read
        cases read
      · simp only [Turn.ending, execute, understood, directory_refuse]
  | ok invocation =>
      obtain ⟨request, encoding, capture⟩ := appending invocation understood
      obtain ⟨_, shared⟩ := invocation
      cases encoding
      have unhelped : turn.asksForHelp = false := by
        simp only [Turn.asksForHelp, understood]
      have left := directory_ending_of_encode understood directory
      -- The capture is written before anything is printed, so the two cases of the encoder
      -- decide the exit code and the output as well.
      have records := Conversion.records_encode capture directory
      generalize done : Conversion.encode directory request = outcome at records left
      have result := congrArg (fun outcome => outcome.2.result) done
      cases records with
      | @recorded kind frame next events described gives consistent admits gained =>
          have reports : (turn.ending directory).Reports _ [.encoded kind frame.encode] none :=
            reports_of_ok understood (run_encode _ request) result
          have zero : (turn.ending directory).code = 0 := reports.code
          have printed := reports.stdout
          rw [List.flatMap_singleton] at printed
          refine .recorded ⟨admits, request, shared, understood, gives⟩ ?_ ?_ ?_
          · simp [Use.succeeded, zero, unhelped]
          · refine ⟨consistent, _, request, kind, understood, rfl, described, printed, ?_⟩
            rw [printed, ← View.sheet_encoded]
            exact View.printed_render _ _
          · rw [left]
            exact gained
      | @refused next failure events nothing kept =>
          have reports : (turn.ending directory).Reports _ [] (some failure) :=
            reports_of_error understood (run_encode _ request) result
          have failed : (turn.ending directory).code ≠ 0 := by
            rw [reports.code]
            exact failure.exitCode_ne_success
          refine .refused ?_ ?_ ?_
          · rintro frame ⟨admits, other, otherShared, read, gives⟩
            cases understood.symm.trans read
            exact nothing frame gives admits
          · simp [Use.succeeded, failed]
          · rw [left]
            exact kept

/-- Uses that name one capture add to it what the successful ones print, in order. -/
theorem session_records {path : String} (directory : Directory) (turns : List Turn)
    (appending : ∀ turn ∈ turns, turn.AppendsTo path) :
    ∃ recorded : List Frame,
      Recorded path directory turns recorded ∧
      List.Forall₂ (fun use frame => use.turn.Prints use.ending frame)
        ((session directory turns).filter Use.succeeded) recorded ∧
      (directoryAfter directory turns).contentAt path =
        directory.contentAt path ++ recorded.flatMap Frame.encode := by
  induction turns generalizing directory with
  | nil => exact ⟨[], .done directory, .nil, by simp [directoryAfter]⟩
  | cons turn turns ih =>
      have step := turnAppends_of_appendsTo (appending turn List.mem_cons_self) directory
      obtain ⟨recorded, later, prints, content⟩ := ih (turn.ending directory).directory
        fun other member => appending other (List.mem_cons_of_mem turn member)
      simp only [session, directoryAfter, List.filter_cons]
      cases step with
      | @recorded frame appends succeeded printed gained =>
          refine ⟨frame :: recorded, .appended appends succeeded later, ?_, ?_⟩
          · rw [if_pos succeeded]
            exact .cons printed prints
          · rw [content, gained, List.flatMap_cons, List.append_assoc]
      | refused nothing failed kept =>
          refine ⟨recorded, .refused nothing failed later, ?_, ?_⟩
          · rw [if_neg (by simp [failed])]
            exact prints
          · rw [content, kept]

theorem isConsistent_of_prints {uses : List Use} {recorded : List Frame}
    (prints : List.Forall₂ (fun use frame => use.turn.Prints use.ending frame) uses recorded) :
    ∀ frame ∈ recorded, frame.isConsistent = true := by
  induction prints with
  | nil => simp
  | cons printed _ ih =>
      intro frame member
      rcases List.mem_cons.mp member with rfl | later
      · exact printed.1
      · exact ih frame later

/-- Every path can be given to be shown, behind a double hyphen. -/
theorem read_dump {path : String} (nonempty : path ≠ "") :
    CommandLine.read ["dump", "--", path] = .ok ⟨.dump ⟨path, false, none⟩, {}⟩ := by
  simp [CommandLine.read, CommandLine.readLevel, CommandLine.commands, CommandLine.readDump,
    CommandLine.readCommand, CommandLine.Grammar.scanWords, CommandLine.Grammar.start,
    CommandLine.Grammar.scanWord, CommandLine.Grammar.scanOperand,
    CommandLine.Grammar.looksLikeOption, CommandLine.Scan.awaits,
    CommandLine.Scan.awaitsAnything, CommandLine.Scan.await, CommandLine.Scan.settle,
    CommandLine.Scan.fill, CommandLine.pathStore, CommandLine.ownStore, List.lookup_cons, bind,
    Except.bind, Except.map, nonempty]
  rfl

/-- A capture of consistent frames is shown whole, in every format. -/
theorem execute_dump {directory : Directory} {path : String} {frames : List Frame}
    {words : List String} {shared : CommandLine.Shared} (named : path ≠ "-")
    (existing : directory.HasFile path)
    (content : directory.contentAt path = frames.flatMap Frame.encode)
    (consistent : ∀ frame ∈ frames, frame.isConsistent = true)
    (understood : CommandLine.read words = .ok ⟨.dump ⟨path, false, none⟩, shared⟩)
    (environment : Environment) :
    (execute { environment with directory := directory } words).code = 0 ∧
      (execute { environment with directory := directory } words).stdout =
        frames.flatMap fun frame => (View.frame frame).render
          (format ⟨.dump ⟨path, false, none⟩, shared⟩ environment.terminal) := by
  obtain ⟨place, held, found⟩ := existing
  have same := Directory.contentAt_of_locate found
  rw [content] at same
  subst same
  obtain ⟨views, failure⟩ :=
    Capture.dump_of_consistent named found consistent environment.stdin
  simp only [execute, understood, run, Outcome.exitCode, Outcome.stdout, views, failure]
  constructor
  · rfl
  · simp [List.flatMap_map, Item.render]

theorem forall₂_printed (frames : List Frame) (format : OutputFormat) :
    List.Forall₂ (fun frame output => frame.sheet.Printed format output) frames
      (frames.map fun frame => (View.frame frame).render format) := by
  rw [List.forall₂_map_right_iff]
  apply List.forall₂_same.mpr
  intro frame _
  rw [← View.sheet_frame]
  exact View.printed_render _ _

/-- Whatever the uses of the program that name one capture of consistent frames ask for,
and whichever of them fail, the capture holds its frames and then those that the
successful uses print as encoded records, and it shows exactly these.  A use succeeds
exactly if its words describe a frame for the capture that can then be opened. -/
theorem session_dumps_recorded (path : String) (named : path ≠ "-") (directory : Directory)
    (frames : List Frame) (consistent : ∀ frame ∈ frames, frame.isConsistent = true)
    (content : directory.contentAt path = frames.flatMap Frame.encode) (turns : List Turn)
    (appending : ∀ turn ∈ turns, turn.AppendsTo path) :
    ∃ recorded : List Frame,
      Recorded path directory turns recorded ∧
      List.Forall₂ (fun use frame => use.turn.Prints use.ending frame)
        ((session directory turns).filter Use.succeeded) recorded ∧
      (directoryAfter directory turns).contentAt path =
        directory.contentAt path ++ recorded.flatMap Frame.encode ∧
      ((directoryAfter directory turns).HasFile path →
        ∀ (environment : Environment) (words : List String) (shared : CommandLine.Shared),
          CommandLine.read words = .ok ⟨.dump ⟨path, false, none⟩, shared⟩ →
          let ending :=
            execute { environment with directory := directoryAfter directory turns } words
          let chosen := format ⟨.dump ⟨path, false, none⟩, shared⟩ environment.terminal
          ending.code = 0 ∧
            ending.stdout =
              (frames ++ recorded).flatMap (fun frame => (View.frame frame).render chosen) ∧
            ∃ outputs, ending.stdout = outputs.flatten ∧
              List.Forall₂ (fun frame output => frame.sheet.Printed chosen output)
                (frames ++ recorded) outputs) := by
  obtain ⟨recorded, kept, prints, gained⟩ := session_records directory turns appending
  refine ⟨recorded, kept, prints, gained, ?_⟩
  intro existing environment words shared understood ending chosen
  have whole : (directoryAfter directory turns).contentAt path =
      (frames ++ recorded).flatMap Frame.encode := by
    rw [gained, content, List.flatMap_append]
  have allConsistent : ∀ frame ∈ frames ++ recorded, frame.isConsistent = true := by
    intro frame member
    rcases List.mem_append.mp member with old | new
    · exact consistent frame old
    · exact isConsistent_of_prints prints frame new
  obtain ⟨code, stdout⟩ := execute_dump named existing whole allConsistent understood environment
  exact ⟨code, stdout, _, stdout, forall₂_printed (frames ++ recorded) chosen⟩

/-- A capture of one frame, to which a hub message is added, a frame whose declared length
is wrong is not, and neither is what the last words fail to describe. -/
theorem session_dumps_recorded_of_mixed_turns :
    let path := "capture.bin"
    let directory : Directory := .ofFiles [(path, [5, 0, 0, 1, 9])] []
    let environment : Environment := ⟨directory, [], 0, 0, 0, .current, false⟩
    let turns : List Turn :=
      [⟨environment, ["encode", "hub", "--type", "7", "--append", path]⟩,
        ⟨environment, ["encode", "frame", "--opcode", "1", "--data", "aabb",
          "--data-length", "9", "--append", path]⟩,
        ⟨environment, ["encode", "frame", "--append", path]⟩]
    let added : Frame := ⟨0, 0, 8, [0, 0, 0, 0, 0, 0, 7, 0]⟩
    let shown := execute { environment with directory := directoryAfter directory turns }
      ["dump", "--", path]
    Recorded path directory turns [added] ∧
      List.Forall₂ (fun use frame => use.turn.Prints use.ending frame)
        ((session directory turns).filter Use.succeeded) [added] ∧
      (directoryAfter directory turns).contentAt path =
        [5, 0, 0, 1, 9] ++ [0, 0, 0, 8, 0, 0, 0, 0, 0, 0, 7, 0] ∧
      shown.code = 0 ∧
      ∃ first second, shown.stdout = first ++ second ∧
        (Frame.mk 5 0 1 [9]).sheet.Printed .json first ∧ added.sheet.Printed .json second := by
  intro path directory environment turns added shown
  have content : directory.contentAt path = [Frame.mk 5 0 1 [9]].flatMap Frame.encode := by
    decide
  have hub : CommandLine.read ["encode", "hub", "--type", "7", "--append", "capture.bin"] =
      .ok ⟨.encode (.hub ⟨0, 0, "00:00:00:00:00:00", 7, "", some "capture.bin"⟩), {}⟩ := by rfl
  have wrong : CommandLine.read ["encode", "frame", "--opcode", "1", "--data", "aabb",
      "--data-length", "9", "--append", "capture.bin"] =
      .ok ⟨.encode (.frame ⟨1, 0, "aabb", some 9, some "capture.bin"⟩), {}⟩ := by rfl
  have incomplete : CommandLine.read ["encode", "frame", "--append", "capture.bin"] =
      .error .missingArguments := by rfl
  have appending : ∀ turn ∈ turns, turn.AppendsTo path := by
    intro turn member invocation understood
    simp only [turns, List.mem_cons, List.not_mem_nil, or_false] at member
    rcases member with rfl | rfl | rfl
    · cases hub.symm.trans understood
      exact ⟨_, rfl, rfl⟩
    · cases wrong.symm.trans understood
      exact ⟨_, rfl, rfl⟩
    · cases incomplete.symm.trans understood
  obtain ⟨recorded, whole, prints, gained, dumped⟩ := session_dumps_recorded path (by decide)
    directory [⟨5, 0, 1, [9]⟩] (by decide) content turns appending
  have built : Conversion.hubFrameOf ⟨0, 0, "00:00:00:00:00:00", 7, "", some "capture.bin"⟩ =
      .ok added := by rfl
  have misdeclared : Conversion.frameOf ⟨1, 0, "aabb", some 9, some "capture.bin"⟩ =
      .ok ⟨1, 0, 9, [0xaa, 0xbb]⟩ := by rfl
  have located : directory.locate path = .ok (.file [".", "capture.bin"] [5, 0, 0, 1, 9]) := by
    decide
  obtain ⟨later, rfl, kept⟩ := whole.of_appends
    ⟨.file located, _, _, hub, Conversion.gives_hub_iff.mpr ⟨built, rfl⟩⟩
  have nothing := (kept.of_refuses ?_).of_refuses ?_
  rotate_left
  · rintro frame ⟨_, _, _, read, gives⟩
    cases wrong.symm.trans read
    obtain ⟨same, consistent⟩ := Conversion.gives_frame_iff.mp gives
    cases misdeclared.symm.trans same
    cases consistent
  · rintro frame ⟨_, _, _, read, _⟩
    cases incomplete.symm.trans read
  cases nothing
  have gained : (directoryAfter directory turns).contentAt path =
      [5, 0, 0, 1, 9] ++ [0, 0, 0, 8, 0, 0, 0, 0, 0, 0, 7, 0] := by
    rw [gained, content]
    decide
  have existing : (directoryAfter directory turns).HasFile path := by
    apply Directory.hasFile_of_contentAt_ne_nil
    rw [gained]
    decide
  obtain ⟨code, _, outputs, stdout, printed⟩ :=
    dumped existing environment _ _ (read_dump (by decide))
  refine ⟨whole, prints, gained, code, ?_⟩
  cases printed with
  | @cons _ first _ _ old rest =>
      cases rest with
      | @cons _ second _ _ new none =>
          cases none
          refine ⟨first, second, ?_, old, new⟩
          rw [stdout]
          simp

end Program

end RadioMesh
