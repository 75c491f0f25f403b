import RadioMesh.Proofs.Capture.Appending
import RadioMesh.Proofs.Record.HubMessage

/-!
# What a failed use leaves behind

A use of the program that names a capture and fails has written no byte.  Most causes
are noticed before the capture is opened, and then all files are as before.  Only a frame
that declares another length than that of its data is refused afterwards, so a missing
capture is made, without content.
-/

namespace RadioMesh

/-- The content of the file to which a path leads. -/
def Target.content? : Target → Option Bytes
  | file _ content => some content
  | _ => none

namespace Directory

theorem storeIn_of_lookup_eq_some {place : Place} {content : Bytes}
    {files : List (Place × Bytes)} (held : files.lookup place = some content) :
    storeIn place content files = files := by
  induction files with
  | nil => cases held
  | cons file files ih =>
      rw [lookup_cons_eq_ite] at held
      unfold storeIn
      by_cases first : place = file.1
      · rw [if_pos first] at held
        rw [if_pos first.symm, first, ← Option.some.inj held]
      · rw [if_neg first] at held
        rw [if_neg (Ne.symm first), ih held]

theorem storeIn_of_lookup_eq_none {place : Place} {files : List (Place × Bytes)}
    (missing : files.lookup place = none) (content : Bytes) :
    storeIn place content files = files ++ [(place, content)] := by
  induction files with
  | nil => rfl
  | cons file files ih =>
      rw [lookup_cons_eq_ite] at missing
      unfold storeIn
      by_cases first : place = file.1
      · rw [if_pos first] at missing
        cases missing
      · rw [if_neg first] at missing
        rw [if_neg (Ne.symm first), ih missing, List.cons_append]

/-- A target says what the files hold at its place. -/
theorem lookup_of_follow {directory : Directory} {here place : Place} {names : List String}
    {target : Target} (found : directory.follow here names = .ok target)
    (possible : target.place? = some place) :
    directory.files.lookup place = target.content? := by
  fun_induction follow directory here names with
  | case1 here =>
      cases found
      cases possible
  | case2 here name rest stays ih => exact ih found
  | case3 here rest moves ih => exact ih found
  | case4 here name rest moves descends next enters ih => exact ih found
  | case5 here name rest moves descends next blocked content held last =>
      cases found
      rw [← Option.some.inj possible]
      exact held
  | case6 here name rest moves descends next blocked content held more =>
      rw [place?_of_beyond found] at possible
      cases possible
  | case7 here name rest moves descends next blocked missing long last => cases found
  | case8 here name rest moves descends next blocked missing long more =>
      rw [place?_of_beyond found] at possible
      cases possible
  | case9 here name rest moves descends next blocked missing short last =>
      cases found
      rw [← Option.some.inj possible]
      exact missing
  | case10 here name rest moves descends next blocked missing short more =>
      rw [place?_of_beyond found] at possible
      cases possible

theorem lookup_of_locate {directory : Directory} {path : String} {place : Place}
    {target : Target} (found : directory.locate path = .ok target)
    (possible : target.place? = some place) :
    directory.files.lookup place = target.content? := by
  unfold locate at found
  split at found
  · cases found
  · split at found
    · cases found
    · split at found
      · cases found
      · exact lookup_of_follow found possible

/-- The directory in which a path leads to an empty file if it led to a free place. -/
def touch (directory : Directory) (path : String) : Directory :=
  match directory.locate path with
  | .ok (.free place) => { directory with files := directory.files ++ [(place, [])] }
  | _ => directory

/-- To store what a capture already holds is no more than to open it. -/
theorem store_of_openForAppending {directory : Directory} {path : String} {place : Place}
    {content : Bytes} (opened : directory.openForAppending path = .ok (place, content)) :
    directory.store place content = directory.touch path := by
  unfold openForAppending at opened
  unfold store touch
  split at opened
  · next found =>
      cases opened
      rw [storeIn_of_lookup_eq_some (lookup_of_locate found rfl), found]
  · next found =>
      cases opened
      rw [storeIn_of_lookup_eq_none (lookup_of_locate found rfl), found]
  all_goals cases opened

theorem touch_of_openForAppending_eq_error {directory : Directory} {path : String}
    {failure : IoFailure} (failed : directory.openForAppending path = .error failure) :
    directory.touch path = directory := by
  unfold openForAppending at failed
  unfold touch
  split at failed
  · cases failed
  · cases failed
  · next found => rw [found]
  · next found => rw [found]
  · next found => rw [found]

end Directory

namespace Capture

/-- A frame that cannot be put into a capture leaves the directory as it was, unless it is
the frame that is refused. -/
theorem directory_of_append_eq_error {directory : Directory} {path : String} {frame : Frame}
    {failure : Failure} (failed : (append directory path frame).2.result = .error failure) :
    (append directory path frame).1 =
      if frame.isConsistent then directory else directory.touch path := by
  unfold append at failed ⊢
  cases opened : directory.openForAppending path with
  | error reason => simp [Directory.touch_of_openForAppending_eq_error opened]
  | ok target =>
      obtain ⟨place, content⟩ := target
      simp only [opened] at failed ⊢
      cases rejected : FrameWriter.rejection? ⟨{}⟩ frame with
      | some error =>
          have inconsistent : ¬frame.isConsistent = true := by
            rw [← rejection?_eq_none_iff, rejected]
            exact Option.some_ne_none error
          rw [FrameWriter.writeFrame_of_rejection? rejected, if_neg inconsistent]
          exact Directory.store_of_openForAppending opened
      | none =>
          obtain ⟨next, written, _⟩ := FrameWriter.writeFrame_of_obliging
            (Pipe.obliging_ofBytes content) rejected
          rw [written] at failed
          cases failed

end Capture

/-- Whether the data can be in a frame, but its length is not the one that is declared. -/
def FrameFields.misdeclares (fields : FrameFields) : Bool :=
  match Text.HexInput.parse fields.data, fields.dataLength with
  | .ok data, some declared =>
      decide (data.length ≤ Frame.dataLimit) && declared.toNat != data.length
  | _, _ => false

def EncodeRequest.misdeclares : EncodeRequest → Bool
  | frame fields => fields.misdeclares
  | _ => false

namespace Conversion

/-- Whether a frame was built that no capture takes. -/
def isRefused : Except Failure Frame → Bool
  | .ok frame => !frame.isConsistent
  | .error _ => false

theorem directory_of_encodeFrame_eq_error {directory : Directory} {kind : RecordKind}
    {built : Except Failure Frame} {path : String} {failure : Failure}
    (failed : (encodeFrame directory kind built (some path)).2.result = .error failure) :
    (encodeFrame directory kind built (some path)).1 =
      if isRefused built then directory.touch path else directory := by
  cases built with
  | error reason => rfl
  | ok frame =>
      simp only [encodeFrame] at failed ⊢
      cases appended : (Capture.append directory path frame).2.result with
      | ok done =>
          rw [Attempt.result_bind, appended] at failed
          cases failed
      | error reason =>
          rw [Capture.directory_of_append_eq_error appended, isRefused]
          cases frame.isConsistent <;> rfl

theorem frameOf_of_parse_eq_error {fields : FrameFields} {flaw : Text.Hex.Flaw}
    (parsed : Text.HexInput.parse fields.data = .error flaw) :
    frameOf fields = .error (.hexInput fields.data flaw) := by
  rw [frameOf, bytesOf, parsed]
  rfl

theorem frameOf_of_parse_eq_ok {fields : FrameFields} {data : Bytes}
    (parsed : Text.HexInput.parse fields.data = .ok data) :
    frameOf fields =
      if data.length ≤ Frame.dataLimit then
        .ok ⟨fields.opcode, fields.handle,
          fields.dataLength.getD (UInt8.ofNat data.length), data⟩
      else .error (.wire "encode failed" (.payloadTooLarge data.length Frame.dataLimit)) := by
  rw [frameOf, bytesOf, parsed]
  change (Frame.ofData fields.opcode fields.handle data).mapError _ >>= _ = _
  unfold Frame.ofData
  split
  · cases fields.dataLength <;> rfl
  · rfl

theorem isRefused_frameOf (fields : FrameFields) :
    isRefused (frameOf fields) = fields.misdeclares := by
  unfold FrameFields.misdeclares
  cases parsed : Text.HexInput.parse fields.data with
  | error flaw =>
      rw [frameOf_of_parse_eq_error parsed]
      rfl
  | ok data =>
      rw [frameOf_of_parse_eq_ok parsed]
      by_cases fits : data.length ≤ Frame.dataLimit
      · cases fields.dataLength with
        | none => simp [fits, isRefused, Frame.isConsistent, Frame.toNat_ofNat_length fits]
        | some declared => simp [fits, isRefused, Frame.isConsistent, bne]
      · cases fields.dataLength <;> simp [fits, isRefused]

theorem isRefused_hubFrameOf (fields : HubFields) : isRefused (hubFrameOf fields) = false := by
  cases built : hubFrameOf fields with
  | error failure => rfl
  | ok frame =>
      obtain ⟨source, _, built⟩ := exists_of_bind_eq_ok built
      obtain ⟨payload, _, built⟩ := exists_of_bind_eq_ok built
      simp [isRefused, Frame.isConsistent_of_ofData (eq_ok_of_mapError_eq_ok built)]

theorem directory_of_encode_eq_error {directory : Directory} {request : EncodeRequest}
    {path : String} {failure : Failure} (capture : request.capture? = some path)
    (failed : (encode directory request).2.result = .error failure) :
    (encode directory request).1 =
      if request.misdeclares then directory.touch path else directory := by
  cases request with
  | frame fields =>
      have named : fields.append = some path := capture
      simp only [encode, named] at failed ⊢
      rw [directory_of_encodeFrame_eq_error failed, isRefused_frameOf]
      rfl
  | hub fields =>
      have named : fields.append = some path := capture
      simp only [encode, named] at failed ⊢
      rw [directory_of_encodeFrame_eq_error failed, isRefused_hubFrameOf]
      rfl
  | config fields => cases capture
  | tracked fields => cases capture
  | command fields => cases capture

end Conversion

namespace Turn

/-- Whether the words ask for a frame that declares another length than that of its
data. -/
def misdeclares (turn : Turn) : Bool :=
  match CommandLine.read turn.words with
  | .ok ⟨.encode request, _⟩ => request.misdeclares
  | _ => false

end Turn

namespace Program

/-- A use of the program that names a capture and fails leaves the directory as it was.
Only if it misdeclares a length, a missing capture is made, without content. -/
theorem directory_of_failed_turn {path : String} {turn : Turn} (appending : turn.AppendsTo path)
    {directory : Directory} (failed : (turn.ending directory).code ≠ ExitCode.success) :
    (turn.ending directory).directory =
      if turn.misdeclares then directory.touch path else directory := by
  cases understood : CommandLine.read turn.words with
  | error reason =>
      simp only [Turn.ending, execute, understood, directory_refuse, Turn.misdeclares]
      rfl
  | ok invocation =>
      obtain ⟨request, encoding, capture⟩ := appending invocation understood
      obtain ⟨_, shared⟩ := invocation
      cases encoding
      have left := directory_ending_of_encode understood directory
      have misdeclares : turn.misdeclares = request.misdeclares := by
        simp only [Turn.misdeclares, understood]
      cases shown : (Conversion.encode directory request).2.result with
      | ok view =>
          have success : (turn.ending directory).code = ExitCode.success := by
            simp only [Turn.ending, execute, understood, run, Outcome.ofAttempt, shown,
              Outcome.exitCode]
          exact absurd success failed
      | error failure =>
          rw [left, misdeclares]
          exact Conversion.directory_of_encode_eq_error capture shown

/-- An odd number of digits leaves a directory of one file as it was, and a wrong length adds
an empty file. -/
theorem directory_of_failed_turn_of_two_flaws :
    let directory : Directory := .ofFiles [("old.bin", [5, 0, 0, 1, 9])] []
    let environment : Environment := ⟨directory, [], 0, 0, 0, .current, false⟩
    let odd : Turn :=
      ⟨environment, ["encode", "frame", "--opcode", "1", "--data", "aab", "--data-length", "9",
        "--append", "new.bin"]⟩
    let wrong : Turn :=
      ⟨environment, ["encode", "frame", "--opcode", "1", "--data", "aabb", "--data-length", "9",
        "--append", "new.bin"]⟩
    (odd.ending directory).directory = directory ∧
      (wrong.ending directory).directory = directory.touch "new.bin" := by
  intro directory environment odd wrong
  have appending : ∀ turn ∈ [odd, wrong], turn.AppendsTo "new.bin" := by
    intro turn member invocation understood
    simp only [List.mem_cons, List.not_mem_nil, or_false] at member
    rcases member with rfl | rfl
    · have read : CommandLine.read odd.words =
          .ok ⟨.encode (.frame ⟨1, 0, "aab", some 9, some "new.bin"⟩), {}⟩ := by rfl
      cases read.symm.trans understood
      exact ⟨_, rfl, rfl⟩
    · have read : CommandLine.read wrong.words =
          .ok ⟨.encode (.frame ⟨1, 0, "aabb", some 9, some "new.bin"⟩), {}⟩ := by rfl
      cases read.symm.trans understood
      exact ⟨_, rfl, rfl⟩
  have oddFails : (odd.ending directory).code ≠ ExitCode.success := by decide
  have wrongFails : (wrong.ending directory).code ≠ ExitCode.success := by decide
  have oddLeaves := directory_of_failed_turn (appending odd (by simp)) oddFails
  have wrongLeaves := directory_of_failed_turn (appending wrong (by simp)) wrongFails
  rw [show odd.misdeclares = false by rfl] at oddLeaves
  rw [show wrong.misdeclares = true by rfl] at wrongLeaves
  exact ⟨oddLeaves, wrongLeaves⟩

/-- A frame that is refused for the length that it declares leaves an empty capture where
there was none. -/
theorem misdeclared_turn_makes_capture :
    let directory : Directory := .ofFiles [] []
    let turn : Turn :=
      ⟨⟨directory, [], 0, 0, 0, .current, false⟩,
        ["encode", "frame", "--opcode", "1", "--data", "aabb", "--data-length", "9",
          "--append", "capture.bin"]⟩
    (turn.ending directory).code = ExitCode.dataInvalid ∧
      directory.files = [] ∧
      (turn.ending directory).directory.files = [([".", "capture.bin"], [])] := by
  intro directory turn
  exact ⟨by rfl, by rfl, by rfl⟩

end Program

end RadioMesh
