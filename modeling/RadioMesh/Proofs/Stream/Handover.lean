import RadioMesh.Proofs.Stream.WriterCalls

/-!
# Handing over whole frames

A frame writer that refuses a frame leaves the pipe alone.  Otherwise the bytes that it
has handed over are at every moment a prefix of the frame, and it ends well only after the
whole frame and a flush.  What earlier calls have left in its buffer makes no difference.
-/

namespace RadioMesh

open PipeCall

/-- The writer has ended with an error before the whole of a frame was handed over, and it
has flushed nothing. -/
structure BreaksOff (frame : Frame) (log : WriteLog) (error : WireError) : Prop where
  result : log.result = .error error
  part : handedBy log.calls <+: frame.encode
  proper : handedBy log.calls ≠ frame.encode
  unflushed : ∀ outcome, .flush outcome ∉ log.calls

/-- A write call that ends the work of the writer hands over nothing. -/
theorem breaksOff_of_write {frame : Frame} {log : WriteLog} {offered : Bytes}
    {outcome : Except IoFailure Nat} {error : WireError}
    (writes : WritesOut frame.encode log.calls log.result)
    (member : .write offered outcome ∈ log.calls)
    (decided : (PipeCall.write offered outcome).verdict? = some (.error error)) :
    BreaksOff frame log error := by
  have part := writes.handedBy_isPrefix
  obtain ⟨made, rest, parts⟩ := List.append_of_mem member
  have whole := parts ▸ writes
  obtain ⟨left, handed, later⟩ := whole.of_append (by simp)
  obtain ⟨rfl, nonempty⟩ := later.offered_of_write
  obtain ⟨rfl, ended⟩ := later.last_of_verdict? decided
  have same : handedBy log.calls = handedBy made := by
    rw [parts, handedBy_append, handedBy_cons, handed_of_verdict? decided]
    simp
  constructor
  case result => exact ended
  case part => exact part
  case proper =>
    rw [same, handed]
    simpa using nonempty
  case unflushed =>
    intro flushed member
    rw [parts] at member
    rcases List.mem_append.mp member with earlier | last
    · exact whole.flush_notMem_of_write flushed earlier
    · cases List.mem_singleton.mp last

/-- A frame with too much data is refused for that, and otherwise one that does not declare
the length of its data.  A refused frame leads to no call on the pipe, and every other
frame to some. -/
structure RefusesFirst (config : StreamConfig) (frame : Frame) (log : WriteLog) : Prop where
  large_iff : log.result =
      .error (.payloadTooLarge frame.data.length config.maxDataSize) ↔
    config.maxDataSize < frame.data.length
  inconsistent_iff : log.result = .error (FrameWriter.inconsistent frame) ↔
    frame.data.length ≤ config.maxDataSize ∧ frame.dataLength.toNat ≠ frame.data.length
  untouched_iff : log.calls = [] ↔
    config.maxDataSize < frame.data.length ∨ frame.dataLength.toNat ≠ frame.data.length

/-- How the calls of a writer hand over a frame. -/
structure HandsOver (frame : Frame) (log : WriteLog) : Prop where
  /-- At every moment a prefix of the frame has been handed over. -/
  prefixes : ∀ made rest, log.calls = made ++ rest → handedBy made <+: frame.encode
  /-- A write call offers what is left of the frame. -/
  offers : ∀ made offered outcome rest, log.calls = made ++ .write offered outcome :: rest →
    offered ≠ [] ∧ handedBy made ++ offered = frame.encode
  /-- Only when nothing is left the pipe is flushed. -/
  flushes : ∀ made outcome rest, log.calls = made ++ .flush outcome :: rest →
    handedBy made = frame.encode
  ok_iff : log.result = .ok () ↔
    ∃ made rest, log.calls = made ++ .flush (.ok ()) :: rest ∧ handedBy made = frame.encode
  closed : ∀ offered, .write offered (.ok 0) ∈ log.calls →
    BreaksOff frame log .connectionClosed
  failed : ∀ offered failure, .write offered (.error failure) ∈ log.calls →
    failure ≠ .interrupted → failure ≠ .wouldBlock → BreaksOff frame log (.io failure)
  unflushed : ∀ failure, .flush (.error failure) ∈ log.calls →
    failure ≠ .interrupted → failure ≠ .wouldBlock →
    log.result = .error (.io failure) ∧ handedBy log.calls = frame.encode
  /-- The calls go on until one of them decides the result. -/
  decided : log.calls ≠ [] → Decides log.calls log.result

theorem IoFailure.isTransient_eq_false {failure : IoFailure}
    (uninterrupted : failure ≠ .interrupted) (ready : failure ≠ .wouldBlock) :
    failure.isTransient = false := by
  cases failure with
  | interrupted => exact absurd rfl uninterrupted
  | wouldBlock => exact absurd rfl ready
  | _ => rfl

/-- A writer that makes calls does not refuse. -/
theorem PipeCall.isRejection_of_verdict? {call : PipeCall} {error : WireError}
    (decided : call.verdict? = some (.error error)) : error.isRejection = false := by
  unfold verdict? at decided
  split at decided
  · cases decided
    rfl
  · cases decided
  · split at decided
    · cases decided
    · cases decided
      rfl
  · cases decided
  · split at decided
    · cases decided
    · cases decided
      rfl

theorem handsOver_of_writesOut {frame : Frame} {log : WriteLog}
    (writes : WritesOut frame.encode log.calls log.result) : HandsOver frame log := by
  have parted : ∀ {made rest : List PipeCall}, log.calls = made ++ rest → rest ≠ [] →
      ∃ left, frame.encode = handedBy made ++ left ∧ WritesOut left rest log.result := by
    intro made rest parts more
    exact (parts ▸ writes).of_append more
  constructor
  case prefixes =>
    intro made rest parts
    have whole := writes.handedBy_isPrefix
    rw [parts, handedBy_append] at whole
    exact (List.prefix_append _ _).trans whole
  case offers =>
    intro made offered outcome rest parts
    obtain ⟨left, whole, later⟩ := parted parts (by simp)
    obtain ⟨rfl, nonempty⟩ := later.offered_of_write
    exact ⟨nonempty, whole.symm⟩
  case flushes =>
    intro made outcome rest parts
    obtain ⟨left, whole, later⟩ := parted parts (by simp)
    obtain rfl := later.nil_of_flush
    rw [whole, List.append_nil]
  case ok_iff =>
    constructor
    · intro done
      obtain ⟨made, last, parts, decided, _⟩ := writes.decides
      rw [done] at decided
      obtain rfl := eq_flush_of_verdict?_ok decided
      obtain ⟨left, whole, later⟩ := parted parts (by simp)
      obtain rfl := later.nil_of_flush
      exact ⟨made, [], parts, by rw [whole, List.append_nil]⟩
    · rintro ⟨made, rest, parts, _⟩
      obtain ⟨left, _, later⟩ := parted parts (by simp)
      exact (later.last_of_verdict? rfl).2
  case closed =>
    intro offered member
    exact breaksOff_of_write writes member rfl
  case failed =>
    intro offered failure member uninterrupted ready
    have lasting := IoFailure.isTransient_eq_false uninterrupted ready
    exact breaksOff_of_write writes member (verdict?_write_error lasting offered)
  case unflushed =>
    intro failure member uninterrupted ready
    have lasting := IoFailure.isTransient_eq_false uninterrupted ready
    obtain ⟨made, rest, parts⟩ := List.append_of_mem member
    obtain ⟨left, whole, later⟩ := parted parts (by simp)
    obtain rfl := later.nil_of_flush
    obtain ⟨rfl, ended⟩ := later.last_of_verdict? (verdict?_flush_error lasting)
    refine ⟨ended, ?_⟩
    rw [parts, whole]
    simp [handed]
  case decided => exact fun _ => writes.decides

theorem refusesFirst_of_rejected {config : StreamConfig} {frame : Frame} {error : WireError}
    (rejected : FrameWriter.rejection? ⟨config⟩ frame = some error) (pipe : Pipe) :
    RefusesFirst config frame ⟨[], .error error, pipe⟩ := by
  unfold FrameWriter.rejection? at rejected
  split at rejected
  · next large =>
      cases rejected
      constructor
      case large_iff => simp [large]
      case inconsistent_iff => simp [FrameWriter.inconsistent, Nat.not_le.mpr large]
      case untouched_iff => simp [large]
  · next small =>
      split at rejected
      · next inconsistent =>
          cases rejected
          have differs : frame.dataLength.toNat ≠ frame.data.length := by
            simpa [Frame.isConsistent] using inconsistent
          constructor
          case large_iff => simpa [FrameWriter.inconsistent] using small
          case inconsistent_iff => simp [Nat.not_lt.mp small, differs]
          case untouched_iff => simp [differs]
      · cases rejected

theorem refusesFirst_of_writesOut {config : StreamConfig} {frame : Frame} {log : WriteLog}
    (unrejected : FrameWriter.rejection? ⟨config⟩ frame = none)
    (writes : WritesOut frame.encode log.calls log.result) : RefusesFirst config frame log := by
  obtain ⟨small, consistent⟩ := FrameWriter.rejection?_eq_none_iff.mp unrejected
  have declared : frame.dataLength.toNat = frame.data.length := by
    simpa [Frame.isConsistent] using consistent
  obtain ⟨made, last, parts, decided, _⟩ := writes.decides
  constructor
  case large_iff =>
    constructor
    · intro refused
      rw [refused] at decided
      cases PipeCall.isRejection_of_verdict? decided
    · exact fun large => absurd small (Nat.not_le.mpr large)
  case inconsistent_iff =>
    constructor
    · intro refused
      rw [refused] at decided
      cases PipeCall.isRejection_of_verdict? decided
    · exact fun refused => absurd declared refused.2
  case untouched_iff => simp [parts, declared, small]

theorem handsOver_of_rejected {frame : Frame} {error : WireError}
    (pipe : Pipe) : HandsOver frame ⟨[], .error error, pipe⟩ := by
  constructor <;> simp

/-- One call of a writer with a frame, on a pipe. -/
structure FrameCall (config : StreamConfig) (frame : Frame) (pipe : Pipe) (log : WriteLog) :
    Prop where
  outcome : FrameWriter.writeFrame ⟨config⟩ frame pipe = log.outcome
  answered : Answered pipe log.calls log.pipe
  arrived : log.pipe.content = pipe.content ++ handedBy log.calls
  refusal : RefusesFirst config frame log
  handover : HandsOver frame log

namespace BufferedWriter

theorem frameCall_writeFrame (writer : BufferedWriter) (frame : Frame) (pipe : Pipe) :
    FrameCall writer.config frame pipe (writer.writeFrame frame pipe).2 := by
  cases rejection : FrameWriter.rejection? ⟨writer.config⟩ frame with
  | some error =>
      rw [writeFrame_of_rejection? rejection]
      constructor
      case outcome => exact FrameWriter.writeFrame_of_rejection? rejection pipe
      case answered => exact .done pipe
      case arrived => simp
      case refusal => exact refusesFirst_of_rejected rejection pipe
      case handover => exact handsOver_of_rejected pipe
  | none =>
      rw [writeFrame_of_unrejected rejection]
      have answered := Pipe.answered_writeLogged frame.encode 0 pipe
      have writes := Pipe.writesOut_writeLogged frame.encode 0 pipe
      constructor
      case outcome =>
        rw [Pipe.outcome_writeLogged, FrameWriter.writeFrame, rejection]
        rfl
      case answered => exact answered
      case arrived => exact answered.content
      case refusal => exact refusesFirst_of_writesOut rejection writes
      case handover => exact handsOver_of_writesOut writes

/-- Several frames, one after the other, also after failed calls. -/
def writeFrames (writer : BufferedWriter) : List Frame → Pipe → List WriteLog
  | [], _ => []
  | frame :: frames, pipe =>
      let (next, log) := writer.writeFrame frame pipe
      log :: next.writeFrames frames log.pipe

@[simp] theorem config_writeFrame (writer : BufferedWriter) (frame : Frame) (pipe : Pipe) :
    (writer.writeFrame frame pipe).1.config = writer.config := by
  unfold writeFrame
  split <;> rfl

end BufferedWriter

/-- Calls of a writer with some frames, each on the pipe that the call before it has left. -/
inductive FrameCalls (config : StreamConfig) : List Frame → Pipe → List WriteLog → Prop where
  | done (pipe : Pipe) : FrameCalls config [] pipe []
  | call {frame : Frame} {frames : List Frame} {pipe : Pipe} {log : WriteLog}
      {logs : List WriteLog} :
      FrameCall config frame pipe log →
      FrameCalls config frames log.pipe logs →
      FrameCalls config (frame :: frames) pipe (log :: logs)

/-- Every call of a writer, whatever came before it, hands over its frame once, a clean
prefix of it, or nothing because it refuses the frame. -/
theorem BufferedWriter.writeFrames_whole_or_prefix (writer : BufferedWriter)
    (frames : List Frame) (pipe : Pipe) :
    FrameCalls writer.config frames pipe (writer.writeFrames frames pipe) := by
  induction frames generalizing writer pipe with
  | nil => exact .done pipe
  | cons frame frames ih =>
      have later := ih (writer.writeFrame frame pipe).1 (writer.writeFrame frame pipe).2.pipe
      rw [config_writeFrame] at later
      exact .call (frameCall_writeFrame writer frame pipe) later

-- The rest of the first frame stays in the buffer and does not get before the second.
example :
    ((BufferedWriter.mk {} []).writeFrames [⟨1, 2, 1, [7]⟩, ⟨5, 0, 0, []⟩]
        ⟨[], [], [.limit 2, .fail .wouldBlock, .limit 0], [], 0⟩).map
      (fun log => (log.result, log.pipe.content)) =
      [(.error .connectionClosed, [1, 2]), (.ok (), [1, 2, 5, 0, 0, 0])] := by
  cbv

end RadioMesh
