import RadioMesh.Proofs.Capture.Appending
import RadioMesh.Proofs.Program.Decoding
import RadioMesh.Proofs.Record.Acceptance
import Mathlib.Data.List.Forall2
import Mathlib.Data.List.Infix

/-!
# Showing a capture and decoding its envelopes

A capture is shown as if its envelopes were decoded one by one, up to the first that is not
decoded.  What is left behind the last envelope is an error unless as many frames as were
asked for have been shown before.
-/

namespace RadioMesh

namespace HubMessage

theorem exitCode_of_ofFrame_eq_error {frame : Frame} {error : WireError}
    (refused : ofFrame frame = .error error) : error.exitCode = ExitCode.dataInvalid := by
  unfold ofFrame at refused
  split at refused
  · cases refused
  · cases refused
    rfl

/-- A whole envelope is a hub message exactly if its frame is. -/
theorem result_decode_of_isConsistent {frame : Frame} (consistent : frame.isConsistent = true)
    (policy : LengthPolicy) : (decode policy frame.encode).result = ofFrame frame := by
  have size : frame.encode.length = Frame.headerSize + frame.data.length := frame.length_encode
  by_cases short : frame.encode.length < minimumSize
  · rw [decode, if_pos short]
    rw [size] at short ⊢
    have few : frame.data.length < 8 := by
      simpa [minimumSize, headerSize] using short
    unfold ofFrame
    split
    · next data =>
        rw [data] at few
        simp only [List.length_cons] at few
        omega
    · rfl
  · rw [result_decode_of_minimumSize_le (Nat.le_of_not_lt short),
      Frame.decode_encode_of_isConsistent consistent]
    rfl

/-- A whole envelope is a hub message exactly if it is long enough for one. -/
theorem exists_ofFrame_eq_ok_iff {frame : Frame} (consistent : frame.isConsistent = true) :
    (∃ message, ofFrame frame = .ok message) ↔ 12 ≤ frame.encode.length := by
  have same := result_decode_of_isConsistent consistent .permissive
  constructor
  · rintro ⟨message, read⟩
    by_contra fewer
    have short : frame.encode.length < minimumSize := Nat.lt_of_not_le fewer
    rw [read, decode, if_pos short] at same
    cases same
  · intro long
    obtain ⟨message, dataLength, whole⟩ := exists_frame_of_minimumSize_le long
    refine ⟨message, ?_⟩
    rw [← same, whole]
    exact result_decode_permissive message dataLength

end HubMessage

namespace Capture

/-- The kind of record as which a capture is shown. -/
def shownKind (asHub : Bool) : RecordKind := if asHub then .hub else .frame

/-- What is wrong with an envelope that is not shown as a hub message: it is too short for one,
or its payload does not mean anything. -/
def flaw (envelope : Bytes) : String :=
  if envelope.length < 12 then " is not a hub message" else " payload invalid"

/-- What decoding an envelope gives, and what the capture shows of it.  A failure is told
with the position of the envelope. -/
inductive Agrees (index : Nat) (envelope : Bytes) :
    Except WireError View → Except Failure View → Prop where
  | shown (view : View) : Agrees index envelope (.ok view) (.ok view)
  | refused {error : WireError} :
      error.exitCode = 60 →
      Agrees index envelope (.error error)
        (.error (.wire ("frame " ++ toString index ++ flaw envelope) error))

theorem viewOf_frame {frame : Frame} (consistent : frame.isConsistent = true)
    (policy : LengthPolicy) :
    (Conversion.viewOf policy frame.encode .frame).result = .ok (.frame frame) := by
  rw [Conversion.viewOf, Attempt.result_map, Frame.decode_encode_of_isConsistent consistent]
  rfl

theorem agrees_view {frame : Frame} (consistent : frame.isConsistent = true)
    (policy : LengthPolicy) (asHub : Bool) (index : Nat) :
    Agrees index frame.encode
      (Conversion.viewOf policy frame.encode (shownKind asHub)).result
      (view asHub index frame) := by
  cases asHub with
  | false =>
      rw [shownKind, if_neg Bool.false_ne_true, viewOf_frame consistent]
      exact .shown (.frame frame)
  | true =>
      rw [shownKind, if_pos rfl, Conversion.result_viewOf_hub,
        HubMessage.result_decode_of_isConsistent consistent, view, if_pos rfl]
      have sized := HubMessage.exists_ofFrame_eq_ok_iff consistent
      cases framed : HubMessage.ofFrame frame with
      | error error =>
          have short : frame.encode.length < 12 := by
            apply Nat.lt_of_not_le
            intro long
            obtain ⟨message, read⟩ := sized.mpr long
            rw [framed] at read
            cases read
          have named : flaw frame.encode = " is not a hub message" := if_pos short
          have refused : Agrees index frame.encode _ _ :=
            .refused (HubMessage.exitCode_of_ofFrame_eq_error framed)
          rw [named] at refused
          exact refused
      | ok message =>
          dsimp only [Except.bind]
          cases meant : message.body with
          | error error =>
              have long := sized.mp ⟨message, framed⟩
              have named : flaw frame.encode = " payload invalid" :=
                if_neg (Nat.not_lt_of_le long)
              have refused : Agrees index frame.encode _ _ :=
                .refused (message.judgedBy_body.exitCode_of_eq_error meant)
              rw [named] at refused
              exact refused
          | ok body => exact .shown (.hub message body)

/-- Whether showing ends before it comes to an unfinished envelope: enough whole ones have
been shown, or there is none. -/
def isComplete (count : Option Nat) (total : Nat) (tail : Bytes) : Bool :=
  count.any (fun limit => decide (limit ≤ total)) || tail.isEmpty

theorem le_getD_of_isComplete_eq_false {count : Option Nat} {total : Nat} {tail : Bytes}
    (cutOff : ¬isComplete count total tail = true) : total ≤ count.getD total := by
  cases count with
  | none => exact Nat.le_refl total
  | some limit =>
      by_contra fewer
      have enough : limit ≤ total := Nat.le_of_not_le fewer
      exact cutOff (by simp [isComplete, enough])

/-- The line that names an envelope, what is wrong with it, and the reason. -/
theorem line_of_position (index : Nat) (flaw reason : String) :
    "error: " ++ ("frame " ++ toString index ++ flaw ++ ": " ++ reason) =
      "error: frame " ++ toString index ++ (flaw ++ ": ") ++ reason := by
  have start : "error: frame " = "error: " ++ "frame " := rfl
  rw [start]
  simp only [String.append_assoc]

theorem line_of_unreadable (index : Nat) :
    "error: " ++
        (Failure.wire ("frame " ++ toString index ++ " unreadable") .connectionClosed).message =
      "error: frame " ++ toString index ++ " unreadable: connection closed (incomplete frame)" := by
  have ending : " unreadable: connection closed (incomplete frame)" =
      " unreadable" ++ ": " ++ "connection closed (incomplete frame)" := rfl
  rw [ending, ← String.append_assoc]
  exact line_of_position index " unreadable" _

/-- The frames of a capture that are shown unless something is wrong before. -/
def chosen (content : Bytes) (count : Option Nat) : List Frame :=
  (Envelope.frames content).take (count.getD (Envelope.frames content).length)

theorem isConsistent_of_mem_chosen {content : Bytes} {count : Option Nat} :
    ∀ frame ∈ chosen content count, frame.isConsistent = true := by
  intro frame member
  have cutting := Envelope.cutting_cut content
  exact (Envelope.map_encode_frames_of_cutting cutting).2 frame (List.mem_of_mem_take member)

theorem length_chosen {content : Bytes} {count : Option Nat} {tail : Bytes}
    (cutOff : ¬isComplete count (Envelope.frames content).length tail = true) :
    (chosen content count).length = (Envelope.frames content).length := by
  rw [chosen, List.take_of_length_le (le_getD_of_isComplete_eq_false cutOff)]

/-- What a reader gives of the chosen frames, and behind them an error if showing goes on to an
unfinished envelope. -/
theorem items_eq_chosen (content : Bytes) (count : Option Nat) :
    items (Pipe.ofBytes content) count =
      (chosen content count).map (fun frame => ⟨.ok frame, [frame.decodedEvent]⟩) ++
        if isComplete count (Envelope.frames content).length (Envelope.tail content) then []
        else [⟨.error .connectionClosed,
          [.streamEndedMidFrame (Envelope.tail content).length]⟩] := by
  have all : items (Pipe.ofBytes content) none = given content := items_ofBytes content
  cases count with
  | none =>
      rw [all, given, chosen, Option.getD_none, List.take_length]
      rfl
  | some limit =>
      have some : items (Pipe.ofBytes content) (some limit) = (given content).take limit := by
        rw [← all]
        rfl
      rw [some, given, chosen, List.take_append, ← List.map_take, List.length_map,
        Option.getD_some]
      congr 1
      by_cases enough : limit ≤ (Envelope.frames content).length
      · have nothing : limit - (Envelope.frames content).length = 0 := by omega
        rw [nothing, List.take_zero, isComplete, Option.any_some, decide_eq_true enough,
          Bool.true_or, if_pos rfl]
      · rw [isComplete, Option.any_some, decide_eq_false enough, Bool.false_or]
        apply List.take_of_length_le
        split
        · exact Nat.zero_le _
        · rw [List.length_singleton]
          omega

/-- More items show at least as much. -/
theorem isPrefix_showItems {shorter longer : List (Attempt WireError Frame)}
    (starts : shorter <+: longer) (asHub : Bool) (index : Nat) :
    (showItems asHub index shorter).views <+: (showItems asHub index longer).views := by
  obtain ⟨rest, rfl⟩ := starts
  induction shorter generalizing index with
  | nil => exact List.nil_prefix
  | cons item items ih =>
      rw [List.cons_append, showItems, showItems]
      split
      · exact List.prefix_rfl
      · split
        · exact List.prefix_rfl
        · exact List.cons_prefix_cons.mpr ⟨rfl, ih (index + 1)⟩

/-- A count asks for no more frames than another, which may ask for all. -/
def AtMost (count limit : Option Nat) : Prop :=
  ∀ most, limit = some most → ∃ fewer, count = some fewer ∧ fewer ≤ most

theorem isPrefix_items {count limit : Option Nat} (fewer : AtMost count limit) (source : Pipe) :
    items source count <+: items source limit := by
  cases limit with
  | none =>
      cases count with
      | none => exact List.prefix_rfl
      | some count => exact List.take_prefix _ _
  | some most =>
      obtain ⟨few, rfl, bound⟩ := fewer most rfl
      exact List.take_prefix_take_left bound

/-- A larger count shows at least as much, whatever the capture is. -/
theorem isPrefix_dump {count limit : Option Nat} (fewer : AtMost count limit)
    (directory : Directory) (stdin : Bytes) (path : String) (asHub : Bool) :
    (dump directory stdin ⟨path, asHub, count⟩).views <+:
      (dump directory stdin ⟨path, asHub, limit⟩).views := by
  have same : source directory stdin ⟨path, asHub, count⟩ =
      source directory stdin ⟨path, asHub, limit⟩ := rfl
  rw [dump, dump, same]
  split
  · exact List.prefix_rfl
  · exact isPrefix_showItems (isPrefix_items fewer _) asHub 0

end Capture

/-- A path leads to these bytes: to a file of them, or for a hyphen to the standard input. -/
inductive Environment.Offers (environment : Environment) (path : String) (content : Bytes) :
    Prop where
  | stdin : path = "-" → environment.stdin = content → Offers environment path content
  | file {place : Place} : path ≠ "-" →
      environment.directory.locate path = .ok (.file place content) →
      Offers environment path content

theorem Capture.source_of_offers {environment : Environment} {request : DumpRequest}
    {content : Bytes} (offers : environment.Offers request.path content) :
    source environment.directory environment.stdin request = .ok (Pipe.ofBytes content) := by
  cases offers with
  | stdin hyphen same =>
      rw [source, DumpRequest.fromStdin, hyphen, same]
      rfl
  | file named found =>
      simp [source, DumpRequest.fromStdin, named, Directory.openForReading, found]

theorem Failure.exists_reason (error : WireError) :
    ∃ reason, ∀ context, (Failure.wire context error).message = context ++ ": " ++ reason := by
  cases error with
  | io failure => exact ⟨failure.message, fun _ => rfl⟩
  | _ => exact ⟨_, fun _ => rfl⟩

namespace DumpRequest

/-- The envelopes that are shown unless something is wrong before. -/
def chosen (request : DumpRequest) (envelopes : List Bytes) : List Bytes :=
  envelopes.take (request.count.getD envelopes.length)

theorem chosen_map_encode (request : DumpRequest) (content : Bytes) :
    request.chosen ((Envelope.frames content).map Frame.encode) =
      (Capture.chosen content request.count).map Frame.encode := by
  rw [chosen, Capture.chosen, List.length_map, List.map_take]

end DumpRequest

namespace Program

section

variable {environment : Environment} {policy : LengthPolicy} {format : OutputFormat}
  {asHub : Bool}

theorem view_of_decoded {frame : Frame} (consistent : frame.isConsistent = true)
    (success : (decoded environment (Capture.shownKind asHub) policy format frame.encode).code =
      0) :
    ∃ shown, (∀ index, Capture.view asHub index frame = .ok shown) ∧
      (decoded environment (Capture.shownKind asHub) policy format frame.encode).Reports format
        [shown] none := by
  have agrees := Capture.agrees_view consistent policy asHub
  cases viewed : (Conversion.viewOf policy frame.encode (Capture.shownKind asHub)).result with
  | error error =>
      rw [(decoded_of_error viewed).code] at success
      exact absurd success error.exitCode_ne_success
  | ok shown =>
      refine ⟨shown, ?_, decoded_of_view viewed⟩
      intro index
      have same := agrees index
      rw [viewed] at same
      generalize Capture.view asHub index frame = result at same ⊢
      cases same
      rfl

theorem failure_of_decoded {frame : Frame} (consistent : frame.isConsistent = true)
    (failed : (decoded environment (Capture.shownKind asHub) policy format frame.encode).code ≠ 0)
    (index : Nat) :
    ∃ error : WireError,
      Capture.view asHub index frame =
        .error (.wire ("frame " ++ toString index ++ Capture.flaw frame.encode) error) ∧
      error.exitCode = 60 ∧
      (decoded environment (Capture.shownKind asHub) policy format frame.encode).Reports format
        [] (some (.wire "decode failed" error)) := by
  have agrees := Capture.agrees_view consistent policy asHub index
  cases viewed : (Conversion.viewOf policy frame.encode (Capture.shownKind asHub)).result with
  | ok shown => exact absurd (decoded_of_view viewed).code failed
  | error error =>
      have reports := @decoded_of_error environment _ _ format _ _ viewed
      rw [viewed] at agrees
      generalize Capture.view asHub index frame = result at agrees ⊢
      cases agrees with
      | refused code => exact ⟨error, rfl, code, reports⟩

/-- The views of frames that are all decoded, and what decoding them prints. -/
theorem exists_views {frames : List Frame}
    (consistent : ∀ frame ∈ frames, frame.isConsistent = true)
    (success : ∀ frame ∈ frames,
      (decoded environment (Capture.shownKind asHub) policy format frame.encode).code = 0) :
    ∃ views,
      List.Forall₂ (fun frame shown => ∀ index, Capture.view asHub index frame = .ok shown)
        frames views ∧
      views.flatMap (fun shown => shown.render format) = frames.flatMap fun frame =>
        (decoded environment (Capture.shownKind asHub) policy format frame.encode).stdout := by
  induction frames with
  | nil => exact ⟨[], .nil, rfl⟩
  | cons frame frames ih =>
      rw [List.forall_mem_cons] at consistent success
      obtain ⟨shown, viewed, reports⟩ := view_of_decoded consistent.1 success.1
      obtain ⟨views, each, printed⟩ := ih consistent.2 success.2
      refine ⟨shown :: views, .cons viewed each, ?_⟩
      rw [List.flatMap_cons, List.flatMap_cons, printed, reports.stdout, List.flatMap_singleton]

end

section

variable {environment : Environment} {words : List String} {request : DumpRequest}
  {shared : CommandLine.Shared}

theorem reports_of_dump (understood : CommandLine.read words = .ok ⟨.dump request, shared⟩) :
    (execute environment words).Reports
      (format ⟨.dump request, shared⟩ environment.terminal)
      (Capture.dump environment.directory environment.stdin request).views
      (Capture.dump environment.directory environment.stdin request).failure :=
  reports_of_run understood rfl rfl

variable {content : Bytes} {chosen : OutputFormat}

/-- A capture whose first items have views is shown by these and by what its other items
come to. -/
theorem reports_of_views {frames : List Frame} {views : List View}
    {rest : List (Attempt WireError Frame)}
    (understood : CommandLine.read words = .ok ⟨.dump request, shared⟩)
    (told : format ⟨.dump request, shared⟩ environment.terminal = chosen)
    (offers : environment.Offers request.path content)
    (each : List.Forall₂
      (fun frame shown => ∀ index, Capture.view request.asHub index frame = .ok shown)
      frames views)
    (items : Capture.items (Pipe.ofBytes content) request.count =
      frames.map (fun frame => ⟨.ok frame, [frame.decodedEvent]⟩) ++ rest) :
    (execute environment words).Reports chosen
      (views ++ (Capture.showItems request.asHub frames.length rest).views)
      (Capture.showItems request.asHub frames.length rest).failure := by
  have shown : Capture.dump environment.directory environment.stdin request =
      Capture.showItems request.asHub 0
        (frames.map (fun frame => ⟨.ok frame, [frame.decodedEvent]⟩) ++ rest) := by
    rw [Capture.dump, Capture.source_of_offers offers, ← items]
  obtain ⟨first, failure⟩ := Capture.showItems_append each 0 rest
  rw [Nat.zero_add] at first failure
  rw [← first, ← failure, ← shown, ← told]
  exact reports_of_dump understood

variable {policy : LengthPolicy}

/-- A capture is shown whole if all of its chosen frames are decoded.  It fails then only at
an unfinished envelope. -/
theorem reports_of_all_decoded
    (understood : CommandLine.read words = .ok ⟨.dump request, shared⟩)
    (told : format ⟨.dump request, shared⟩ environment.terminal = chosen)
    (offers : environment.Offers request.path content)
    (success : ∀ frame ∈ Capture.chosen content request.count,
      (decoded environment (Capture.shownKind request.asHub) policy chosen frame.encode).code =
        0) :
    ∃ views,
      views.flatMap (fun view => view.render chosen) =
        (Capture.chosen content request.count).flatMap (fun frame =>
          (decoded environment (Capture.shownKind request.asHub) policy chosen
            frame.encode).stdout) ∧
      (execute environment words).Reports chosen views
        (if Capture.isComplete request.count (Envelope.frames content).length
            (Envelope.tail content) then none
        else some (.wire ("frame " ++ toString (Envelope.frames content).length ++ " unreadable")
          .connectionClosed)) := by
  obtain ⟨views, each, printed⟩ := exists_views Capture.isConsistent_of_mem_chosen success
  refine ⟨views, printed, ?_⟩
  have reports := reports_of_views understood told offers each
    (Capture.items_eq_chosen content request.count)
  split
  · next complete =>
      rw [if_pos complete, Capture.showItems, List.append_nil] at reports
      exact reports
  · next cutOff =>
      rw [if_neg cutOff, Capture.showItems, List.append_nil, Capture.length_chosen cutOff]
        at reports
      exact reports

/-- A capture is shown up to its first frame that is not decoded, and fails there for the
reason of the decoder. -/
theorem reports_of_broken {before after : List Frame} {frame : Frame}
    (understood : CommandLine.read words = .ok ⟨.dump request, shared⟩)
    (told : format ⟨.dump request, shared⟩ environment.terminal = chosen)
    (offers : environment.Offers request.path content)
    (split : Capture.chosen content request.count = before ++ frame :: after)
    (success : ∀ frame ∈ before,
      (decoded environment (Capture.shownKind request.asHub) policy chosen frame.encode).code = 0)
    (failed : (decoded environment (Capture.shownKind request.asHub) policy chosen
      frame.encode).code ≠ 0) :
    ∃ (views : List View) (error : WireError),
      views.flatMap (fun view => view.render chosen) =
        before.flatMap (fun frame =>
          (decoded environment (Capture.shownKind request.asHub) policy chosen
            frame.encode).stdout) ∧
      error.exitCode = 60 ∧
      (decoded environment (Capture.shownKind request.asHub) policy chosen frame.encode).Reports
        chosen [] (some (.wire "decode failed" error)) ∧
      (execute environment words).Reports chosen views
        (some (.wire ("frame " ++ toString before.length ++ Capture.flaw frame.encode)
          error)) := by
  have consistent := @Capture.isConsistent_of_mem_chosen content request.count
  have items := Capture.items_eq_chosen content request.count
  rw [split, List.forall_mem_append, List.forall_mem_cons] at consistent
  rw [split, List.map_append, List.append_assoc] at items
  obtain ⟨views, each, printed⟩ := exists_views consistent.1 success
  obtain ⟨error, viewed, invalid, refused⟩ :=
    failure_of_decoded consistent.2.1 failed before.length
  have reports := reports_of_views understood told offers each items
  rw [List.map_cons, List.cons_append, Capture.showItems] at reports
  dsimp only at reports
  rw [viewed, List.append_nil] at reports
  exact ⟨views, error, printed, invalid, refused, reports⟩

end

/-- How a capture is shown, told by what decoding its envelopes ends in. -/
structure ShowsDecoded (request : DumpRequest) (decoded : Bytes → Ending)
    (envelopes : List Bytes) (tail : Bytes) (ending : Ending) : Prop where
  /-- Every envelope is a frame. -/
  framed : request.asHub = false → ∀ envelope ∈ envelopes, (decoded envelope).code = 0
  /-- If all that is asked for is decoded, all of it is printed. -/
  whole : (∀ envelope ∈ request.chosen envelopes, (decoded envelope).code = 0) →
    ending.stdout =
        (request.chosen envelopes).flatMap (fun envelope => (decoded envelope).stdout) ∧
      if Capture.isComplete request.count envelopes.length tail then ending.code = 0
      else
        ending.code = 1 ∧
          ending.stderr.getLast? = some ("error: frame " ++ toString envelopes.length ++
            " unreadable: connection closed (incomplete frame)")
  /-- The first envelope that is not decoded ends it, with the code and the reason of the
  decoder. -/
  broken : ∀ before failing after, request.chosen envelopes = before ++ failing :: after →
    (∀ envelope ∈ before, (decoded envelope).code = 0) →
    (decoded failing).code ≠ 0 →
    ending.stdout = before.flatMap (fun envelope => (decoded envelope).stdout) ∧
      ending.code = 60 ∧
      (decoded failing).code = 60 ∧
      ∃ reason,
        (decoded failing).stderr.getLast? = some ("error: decode failed: " ++ reason) ∧
        ending.stderr.getLast? = some ("error: frame " ++ toString before.length ++
          (if failing.length < 12 then " is not a hub message: " else " payload invalid: ") ++
          reason)

section

variable {environment : Environment} {words : List String} {request : DumpRequest}
  {shared : CommandLine.Shared} {content : Bytes}

theorem showsDecoded_of_offers
    (understood : CommandLine.read words = .ok ⟨.dump request, shared⟩)
    (offers : environment.Offers request.path content) (policy : LengthPolicy) :
    ShowsDecoded request
      (decoded environment (Capture.shownKind request.asHub) policy
        (format ⟨.dump request, shared⟩ environment.terminal))
      ((Envelope.frames content).map Frame.encode) (Envelope.tail content)
      (execute environment words) := by
  constructor
  case framed =>
    intro asFrames envelope member
    obtain ⟨frame, known, rfl⟩ := List.mem_map.mp member
    have cutting := Envelope.cutting_cut content
    have consistent := (Envelope.map_encode_frames_of_cutting cutting).2 frame known
    rw [asFrames]
    exact (decoded_of_view (Capture.viewOf_frame consistent policy)).code
  case whole =>
    rw [request.chosen_map_encode, List.forall_mem_map, List.length_map, List.flatMap_map]
    intro success
    obtain ⟨views, printed, reports⟩ := reports_of_all_decoded understood rfl offers success
    refine ⟨reports.stdout.trans printed, ?_⟩
    split
    · next complete =>
        rw [if_pos complete] at reports
        exact reports.code
    · next cutOff =>
        rw [if_neg cutOff] at reports
        refine ⟨reports.code, ?_⟩
        rw [reports.stderr _ rfl, Capture.line_of_unreadable]
  case broken =>
    rw [request.chosen_map_encode]
    intro before failing after split success failed
    obtain ⟨first, later, parts, rfl, others⟩ := List.map_eq_append_iff.mp split
    obtain ⟨frame, last, rfl, rfl, rfl⟩ := List.map_eq_cons_iff.mp others
    rw [List.forall_mem_map] at success
    obtain ⟨views, error, printed, invalid, refused, reports⟩ :=
      reports_of_broken understood rfl offers parts success failed
    obtain ⟨reason, worded⟩ := Failure.exists_reason error
    rw [List.flatMap_map, List.length_map]
    refine ⟨reports.stdout.trans printed, reports.code.trans invalid,
      refused.code.trans invalid, reason, ?_, ?_⟩
    · rw [refused.stderr _ rfl, worded]
      rfl
    · rw [reports.stderr _ rfl, worded, Capture.line_of_position, Capture.flaw]
      split <;> rfl

/-- A capture is shown as its envelopes are decoded one by one, and for a larger count at
least as much is printed. -/
theorem dump_shows_decoded {envelopes : List Bytes} {tail : Bytes}
    (understood : CommandLine.read words = .ok ⟨.dump request, shared⟩)
    (offers : environment.Offers request.path content)
    (cutting : Envelope.Cutting content envelopes tail) (policy : LengthPolicy) :
    ShowsDecoded request
        (decoded environment (Capture.shownKind request.asHub) policy
          (format ⟨.dump request, shared⟩ environment.terminal))
        envelopes tail (execute environment words) ∧
      ∀ longerWords limit longerShared,
        CommandLine.read longerWords =
            .ok ⟨.dump ⟨request.path, request.asHub, limit⟩, longerShared⟩ →
        longerShared.format = shared.format →
        Capture.AtMost request.count limit →
        (execute environment words).stdout <+: (execute environment longerWords).stdout := by
  constructor
  · obtain ⟨rfl, _⟩ := Envelope.map_encode_frames_of_cutting cutting
    have left : Envelope.tail content = tail := by
      rw [Envelope.tail, Envelope.cutting_iff.mp cutting]
    rw [← left]
    exact showsDecoded_of_offers understood offers policy
  · intro longerWords limit longerShared longer sameFormat fewer
    rw [(reports_of_dump understood).stdout, (reports_of_dump longer).stdout, format, format,
      sameFormat]
    exact List.IsPrefix.flatMap (Capture.isPrefix_dump fewer _ _ _ _) _

/-- A hub message, a frame that is none, and an unfinished envelope on the standard input.
The second envelope ends it, and without asking for hub messages only the third does. -/
theorem dump_shows_decoded_of_broken_hub :
    let message : Bytes := [1, 2, 0, 9, 6, 5, 4, 3, 2, 1, 7, 0, 9]
    let short : Bytes := [5, 0, 0, 1, 9]
    let environment : Environment :=
      ⟨.ofFiles [] [], message ++ short ++ [8, 0], 0, 0, 0, .current, false⟩
    let ending := execute environment ["dump", "-", "--hub", "--count", "2"]
    let frames := execute environment ["dump", "-"]
    ending.stdout = (decoded environment .hub .strict .json message).stdout ∧
      ending.code = 60 ∧
      ending.stderr.getLast? =
        some "error: frame 1 is not a hub message: buffer too short (5 bytes, need 12)" ∧
      ending.stdout <+: (execute environment ["dump", "-", "--hub"]).stdout ∧
      frames.code = 1 ∧
      frames.stderr.getLast? =
        some "error: frame 2 unreadable: connection closed (incomplete frame)" := by
  intro message short environment ending frames
  have understood : CommandLine.read ["dump", "-", "--hub", "--count", "2"] =
      .ok ⟨.dump ⟨"-", true, some 2⟩, {}⟩ := by rfl
  have longer : CommandLine.read ["dump", "-", "--hub"] =
      .ok ⟨.dump ⟨"-", true, none⟩, {}⟩ := by rfl
  have plain : CommandLine.read ["dump", "-"] = .ok ⟨.dump ⟨"-", false, none⟩, {}⟩ := by rfl
  have cutting : Envelope.Cutting environment.stdin [message, short] [8, 0] := by
    refine ⟨rfl, ?_, Envelope.split?_eq_none_iff.mp rfl⟩
    intro envelope member
    simp only [List.mem_cons, List.not_mem_nil, or_false] at member
    rcases member with rfl | rfl
    · exact ⟨9, rfl, rfl⟩
    · exact ⟨1, rfl, rfl⟩
  obtain ⟨shown, grows⟩ := dump_shows_decoded understood (.stdin rfl rfl) cutting .strict
  obtain ⟨whole, _⟩ := dump_shows_decoded plain (.stdin rfl rfl) cutting .strict
  have first : (decoded environment .hub .strict .json message).code = 0 :=
    (decoded_of_view rfl).code
  have refused : (decoded environment .hub .strict .json short).Reports .json []
      (some (.wire "decode failed" (.tooShort 12 5))) := decoded_of_error rfl
  have fails : (decoded environment .hub .strict .json short).code ≠ 0 := by
    rw [refused.code]
    decide
  obtain ⟨stdout, code, _, reason, told, named⟩ := shown.broken [message] short [] rfl
    (List.forall_mem_singleton.mpr first) fails
  obtain ⟨_, cutOff⟩ := whole.whole (whole.framed rfl)
  have refusedLine : "error: frame " ++ toString 1 ++ " is not a hub message: " ++
      "buffer too short (5 bytes, need 12)" =
      "error: frame 1 is not a hub message: buffer too short (5 bytes, need 12)" := by decide
  have cutOffLine : "error: frame " ++ toString 2 ++
      " unreadable: connection closed (incomplete frame)" =
      "error: frame 2 unreadable: connection closed (incomplete frame)" := by decide
  refine ⟨?_, code, ?_, ?_, cutOff.1, cutOff.2.trans (congrArg some cutOffLine)⟩
  · rw [stdout, List.flatMap_singleton]
    rfl
  · have same : "error: decode failed: " ++ reason =
        "error: decode failed: " ++ "buffer too short (5 bytes, need 12)" := by
      apply Option.some.inj
      exact told.symm.trans ((refused.stderr _ rfl).trans (by rfl))
    rw [named, (String.append_right_inj _).mp same]
    exact congrArg some refusedLine
  · exact grows _ none {} longer rfl (fun most all => by cases all)

end

end Program

end RadioMesh
