import RadioMesh.Proofs.Stream.Buffering
import Mathlib.Algebra.GroupWithZero.Nat
import Mathlib.Algebra.Ring.Int.Defs

/-!
# The log of a frame reader

Every byte that a reader takes from its source is in a frame that it returned, is counted by an
event of a stream that ended inside an envelope, or is still in the buffer.  Each call settles
some of the bytes that were there and leaves the others to the next, so the log of any number
of calls accounts for all bytes that they took.
-/

namespace RadioMesh

namespace Event

/-- The events of a log that carry a message. -/
def titled (message : String) (log : List Event) : List Event :=
  log.filter fun event => event.message = message

theorem titled_append (message : String) (first second : List Event) :
    titled message (first ++ second) = titled message first ++ titled message second :=
  List.filter_append ..

/-- The number in a field of an event, zero if there is none. -/
def number (field : String) (event : Event) : Int :=
  match event.fields.lookup field with
  | some (.number value) => value
  | _ => 0

@[simp] theorem number_buffered (buffered : Nat) :
    (streamEndedMidFrame buffered).number "buffered" = buffered := rfl

end Event

namespace Frame

@[simp] theorem number_dataLength (frame : Frame) :
    frame.decodedEvent.number "data_length" = frame.dataLength.toNat := rfl

@[simp] theorem number_dataLen (frame : Frame) :
    frame.decodedEvent.number "data_len" = frame.data.length := rfl

end Frame

namespace FrameReader

/-- The frames that some calls returned. -/
def framesOf (attempts : List (Attempt WireError (Option Frame))) : List Frame :=
  attempts.filterMap fun attempt => attempt.result.toOption.join

/-- What some calls reported, in order. -/
def logOf (attempts : List (Attempt WireError (Option Frame))) : List Event :=
  attempts.flatMap Attempt.events

def isConnectionClosed (attempt : Attempt WireError (Option Frame)) : Bool :=
  match attempt.result with
  | .error .connectionClosed => true
  | _ => false

/-- The log of some calls accounts for the bytes that they had and did not leave. -/
structure AccountsFor (had : Nat) (attempts : List (Attempt WireError (Option Frame)))
    (left : Nat) : Prop where
  /-- The bytes are those of the frames, those that were thrown away, and those that are
  left. -/
  bytes : (had : Int) = ((framesOf attempts).map Frame.wireSize).sum +
    ((Event.titled "stream ended mid-frame" (logOf attempts)).map (Event.number "buffered")).sum +
    left
  /-- Each lost connection is reported once. -/
  ends : (Event.titled "stream ended mid-frame" (logOf attempts)).length =
    attempts.countP isConnectionClosed
  /-- What is thrown away is the start of an envelope. -/
  unfinished : ∀ event ∈ Event.titled "stream ended mid-frame" (logOf attempts),
    1 ≤ event.number "buffered" ∧ event.number "buffered" ≤ 258
  /-- Each frame is reported once. -/
  decoded : (Event.titled "decoded frame" (logOf attempts)).length = (framesOf attempts).length
  /-- A frame declares the length of its data. -/
  declared : ∀ event ∈ Event.titled "decoded frame" (logOf attempts),
    event.number "data_length" = event.number "data_len"
  unwarned : ∀ event ∈ logOf attempts, event.level ≠ .warn

theorem accountsFor_nil (left : Nat) : AccountsFor left [] left := by
  constructor <;> simp [framesOf, logOf, Event.titled]

/-- What some calls left and what came in after them is what the later calls have. -/
theorem AccountsFor.append {had more between left : Nat}
    {first second : List (Attempt WireError (Option Frame))}
    (before : AccountsFor had first between)
    (after : AccountsFor (between + more) second left) :
    AccountsFor (had + more) (first ++ second) left := by
  have frames : framesOf (first ++ second) = framesOf first ++ framesOf second :=
    List.filterMap_append
  have log : logOf (first ++ second) = logOf first ++ logOf second := List.flatMap_append
  have titled : ∀ message, Event.titled message (logOf (first ++ second)) =
      Event.titled message (logOf first) ++ Event.titled message (logOf second) := by
    intro message
    rw [log, Event.titled_append]
  constructor
  case bytes =>
    have earlier := before.bytes
    have later := after.bytes
    rw [frames, titled, List.map_append, List.map_append, List.sum_append, List.sum_append]
    omega
  case ends => rw [titled, List.length_append, List.countP_append, before.ends, after.ends]
  case unfinished =>
    rw [titled]
    exact List.forall_mem_append.mpr ⟨before.unfinished, after.unfinished⟩
  case decoded =>
    rw [titled, frames, List.length_append, List.length_append, before.decoded, after.decoded]
  case declared =>
    rw [titled]
    exact List.forall_mem_append.mpr ⟨before.declared, after.declared⟩
  case unwarned =>
    rw [log]
    exact List.forall_mem_append.mpr ⟨before.unwarned, after.unwarned⟩

theorem accountsFor_frame {frame : Frame} (consistent : frame.isConsistent = true)
    (left : Nat) :
    AccountsFor (frame.wireSize + left) [⟨.ok (some frame), [frame.decodedEvent]⟩] left := by
  have same : frame.dataLength.toNat = frame.data.length := by
    simpa [Frame.isConsistent] using consistent
  have message : frame.decodedEvent.message = "decoded frame" := rfl
  have level : frame.decodedEvent.level = .debug := rfl
  constructor <;>
    simp [framesOf, logOf, isConnectionClosed, Event.titled, message, level, Except.toOption, same]

/-- A call that returns no frame and throws nothing away reports nothing. -/
theorem accountsFor_silent {result : Except WireError (Option Frame)}
    (plain : result = .ok none ∨ ∃ failure, result = .error (.io failure)) (left : Nat) :
    AccountsFor left [⟨result, []⟩] left := by
  rcases plain with rfl | ⟨failure, rfl⟩ <;> constructor <;>
    simp [framesOf, logOf, isConnectionClosed, Event.titled, Except.toOption]

theorem accountsFor_cutOff {buffered : Nat} (positive : 1 ≤ buffered) (few : buffered ≤ 258) :
    AccountsFor buffered
      [⟨.error .connectionClosed, [.streamEndedMidFrame buffered]⟩] 0 := by
  have message : (Event.streamEndedMidFrame buffered).message = "stream ended mid-frame" := rfl
  have level : (Event.streamEndedMidFrame buffered).level = .debug := rfl
  constructor
  case unfinished =>
    intro event member
    obtain rfl : event = .streamEndedMidFrame buffered := by
      simpa [logOf, Event.titled, message] using member
    rw [Event.number_buffered]
    omega
  all_goals
    simp [framesOf, logOf, isConnectionClosed, Event.titled, message, level, Except.toOption]

section

variable {σ : Type} [ByteSource σ]

theorem accountsFor_readFrame (reader : FrameReader) (recorded : Recorded σ) :
    ∃ more : Bytes, (reader.readFrame recorded).source.taken = recorded.taken ++ more ∧
      AccountsFor (reader.buffer.length + more.length) [(reader.readFrame recorded).attempt]
        (reader.readFrame recorded).reader.buffer.length := by
  obtain ⟨quiet, middle, reads, _, finishes⟩ := readFrame_gathers reader recorded
  have taken := Recorded.taken_of_reads reads
  generalize quiet.flatMap ReadOutcome.bytes = more at taken finishes
  -- Only the quiet reads bring bytes: the read that may end the call delivers none.
  refine ⟨more, ?_⟩
  rw [← taken, ← List.length_append, ← buffer_gather]
  generalize reader.gather more = gathered at finishes
  generalize reader.readFrame recorded = call at finishes
  cases finishes with
  | frame consistent content =>
      rw [content, List.length_append, Frame.length_encode]
      exact ⟨rfl, accountsFor_frame consistent _⟩
  | clean ended empty =>
      refine ⟨?_, accountsFor_silent (.inl rfl) _⟩
      simpa [ReadOutcome.bytes] using Recorded.taken_of_read ended
  | cutOff ended nonempty missing =>
      refine ⟨?_, ?_⟩
      · simpa [ReadOutcome.bytes] using Recorded.taken_of_read ended
      · exact accountsFor_cutOff (List.length_pos_iff.mpr nonempty)
          (Envelope.length_of_split?_eq_none missing)
  | failed failed =>
      refine ⟨?_, accountsFor_silent (.inr ⟨_, rfl⟩) _⟩
      simpa [ReadOutcome.bytes] using Recorded.taken_of_read failed

theorem accountsFor_calls (reader : FrameReader) (recorded : Recorded σ) (count : Nat) :
    ∃ more : Bytes, (reader.calls recorded count).source.taken = recorded.taken ++ more ∧
      AccountsFor (reader.buffer.length + more.length) (reader.calls recorded count).attempts
        (reader.calls recorded count).reader.buffer.length := by
  induction count generalizing reader recorded with
  | zero => exact ⟨[], (List.append_nil _).symm, accountsFor_nil _⟩
  | succ count ih =>
      obtain ⟨first, firstTaken, firstAccount⟩ := accountsFor_readFrame reader recorded
      obtain ⟨others, othersTaken, othersAccount⟩ :=
        ih (reader.readFrame recorded).reader (reader.readFrame recorded).source
      refine ⟨first ++ others, ?_, ?_⟩
      · rw [← List.append_assoc, ← firstTaken]
        exact othersTaken
      · rw [List.length_append, ← Nat.add_assoc]
        exact firstAccount.append othersAccount

/-- After any number of calls of a fresh reader, on any source and under either policy, the
bytes that were taken from the source are those of the frames returned, those that the log
counts where the stream ended inside an envelope, and those in the buffer.  The log reports
each lost connection and each frame once, and it warns of nothing.  Any list of outcomes is a
source, with failures and with bytes that come after an end. -/
theorem log_accounts_for_stream (config : StreamConfig) (source : σ) (count : Nat) :
    let run := (fresh config).calls source count
    let recorded := ((fresh config).calls (Recorded.start source) count).source
    recorded.source = run.source ∧
      AccountsFor recorded.taken.length run.attempts run.reader.buffer.length := by
  intro run recorded
  have same : run = ((fresh config).calls (Recorded.start source) count).mapSource
      Recorded.source :=
    calls_of_keepsOutcomes Recorded.keepsOutcomes_source (fresh config) (Recorded.start source)
      count
  obtain ⟨more, taken, account⟩ :=
    accountsFor_calls (fresh config) (Recorded.start source) count
  rw [same]
  refine ⟨rfl, ?_⟩
  have all : recorded.taken.length = (fresh config).buffer.length + more.length := by
    rw [taken]
    simp [fresh, Recorded.start, Recorded.taken]
  rw [all]
  exact account

end

end FrameReader

end RadioMesh
