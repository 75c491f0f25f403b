import RadioMesh.Proofs.Stream.Obliging

/-!
# Reading to the end

A frame reader on any pipe comes to an end.  A call ends after a bounded number of
steps, and it pays for what it yields: a frame with the bytes of its envelope, a lost
connection with the bytes that it throws away, and a failure with a step of the script.
When nothing is left to pay with, every further call meets a clean end.
-/

namespace RadioMesh

namespace PipeStep

def isLastingFailure : PipeStep → Bool
  | .limit _ => false
  | .fail failure => failure != .interrupted

/-- The failures of a script that a reader reports: all but interruptions. -/
def lastingFailures (script : List PipeStep) : Nat := script.countP isLastingFailure

theorem lastingFailures_fail {failure : IoFailure} (lasting : failure ≠ .interrupted)
    (script : List PipeStep) :
    lastingFailures (.fail failure :: script) = lastingFailures script + 1 :=
  List.countP_cons_of_pos (by simpa [isLastingFailure] using lasting)

theorem lastingFailures_le_of_suffix {script left : List PipeStep} (shorter : left <:+ script) :
    lastingFailures left ≤ lastingFailures script :=
  shorter.sublist.countP_le

end PipeStep

open PipeStep

namespace Pipe

theorem reads_eq_cons_of_read {pipe next : Pipe} {failure : IoFailure}
    (failed : ByteSource.read pipe = (.failed failure, next)) :
    pipe.reads = .fail failure :: next.reads := by
  change pipe.read = (.failed failure, next) at failed
  unfold read at failed
  split at failed
  · cases failed
  · cases failed
  · next failing reads script =>
      cases failed
      exact script

/-- A read call that delivers nothing uses up a step of the script, unless the script is
used up and the pipe is empty. -/
theorem shorter_or_empty_of_read {pipe next : Pipe}
    (ended : ByteSource.read pipe = (.delivered [], next)) :
    next.reads.length < pipe.reads.length ∨ next.content = [] ∧ next.reads = [] := by
  change pipe.read = (.delivered [], next) at ended
  unfold read at ended
  split at ended
  · next script =>
      simp only [take, Prod.mk.injEq, ReadOutcome.delivered.injEq, List.take_eq_nil_iff] at ended
      obtain ⟨none | nothing, rfl⟩ := ended
      · cases none
      · exact .inr ⟨by simp [nothing], script⟩
  · next count reads script =>
      simp only [take, Prod.mk.injEq] at ended
      obtain ⟨_, rfl⟩ := ended
      exact .inl (by simp [script])
  · cases ended

end Pipe

namespace FrameReader

section

variable {σ : Type} [ByteSource σ]

/-- The frames and errors that some calls yield. -/
def yielded (reader : FrameReader) (source : σ) : Nat → List (Attempt WireError Frame)
  | 0 => []
  | count + 1 =>
      let call := reader.readFrame source
      call.item?.toList ++ call.reader.yielded call.source count

end

def isFrame (item : Attempt WireError Frame) : Bool :=
  match item.result with
  | .ok _ => true
  | .error _ => false

def isCutOff (item : Attempt WireError Frame) : Bool :=
  match item.result with
  | .error .connectionClosed => true
  | _ => false

def isFailure (item : Attempt WireError Frame) : Bool :=
  match item.result with
  | .error (.io _) => true
  | _ => false

/-- What a call yields, and what it leaves of so many unread bytes and of the script. -/
inductive Spends (unread : Nat) (script : List PipeStep) :
    Option (Attempt WireError Frame) → Nat → List PipeStep → Prop where
  | frame {frame : Frame} {events : List Event} {later : Nat} {left : List PipeStep} :
      later + Frame.headerSize ≤ unread →
      left <:+ script →
      Spends unread script (some ⟨.ok frame, events⟩) later left
  /-- A clean end uses up a read call that delivers nothing, unless nothing is left. -/
  | clean {later : Nat} {left : List PipeStep} :
      later ≤ unread →
      left <:+ script →
      left.length < script.length ∨ later = 0 ∧ left = [] →
      Spends unread script none later left
  | cutOff {events : List Event} {later : Nat} {left : List PipeStep} :
      later < unread →
      left <:+ script →
      Spends unread script (some ⟨.error .connectionClosed, events⟩) later left
  | failed {failure : IoFailure} {events : List Event} {later : Nat} {left : List PipeStep} :
      later ≤ unread →
      failure ≠ .interrupted →
      .fail failure :: left <:+ script →
      Spends unread script (some ⟨.error (.io failure), events⟩) later left

theorem spends_readFrame (reader : FrameReader) (pipe : Pipe) :
    Spends (reader.unread pipe).length pipe.reads (reader.readFrame pipe).item?
      ((reader.readFrame pipe).reader.unread (reader.readFrame pipe).source).length
      (reader.readFrame pipe).source.reads := by
  obtain ⟨quiet, middle, reads, _, finishes⟩ := readFrame_gathers reader pipe
  have shorter := Pipe.reads_suffix_of_reads reads
  have same : reader.unread pipe =
      (reader.gather (quiet.flatMap ReadOutcome.bytes)).unread middle := by
    simp [unread, Pipe.content_of_reads reads]
  rw [same]
  generalize reader.gather (quiet.flatMap ReadOutcome.bytes) = gathered at finishes
  generalize reader.readFrame pipe = call at finishes
  cases finishes with
  | @frame frame rest consistent content =>
      refine .frame ?_ shorter
      have size := frame.length_encode
      simp only [unread, content, List.length_append, size, Frame.wireSize]
      omega
  | @clean next ended empty =>
      obtain ⟨left, fewer, content, after⟩ := Pipe.pipe_of_read ended
      refine .clean ?_ ?_ ?_
      · simp [unread, content]
      · rw [after]
        exact fewer.trans shorter
      · rcases Pipe.shorter_or_empty_of_read ended with used | ⟨nothing, script⟩
        · exact .inl (Nat.lt_of_lt_of_le used shorter.length_le)
        · exact .inr ⟨by simp [unread, empty, nothing], script⟩
  | @cutOff next ended nonempty missing =>
      obtain ⟨left, fewer, content, after⟩ := Pipe.pipe_of_read ended
      refine .cutOff ?_ ?_
      · have positive := List.length_pos_iff.mpr nonempty
        simpa [unread, content, ReadOutcome.bytes] using positive
      · rw [after]
        exact fewer.trans shorter
  | @failed failure next failed lasting =>
      obtain ⟨left, fewer, content, after⟩ := Pipe.pipe_of_read failed
      refine .failed ?_ lasting ?_
      · simp [unread, content]
      · rwa [← Pipe.reads_eq_cons_of_read failed]

theorem length_unread (reader : FrameReader) (pipe : Pipe) :
    (reader.unread pipe).length = reader.buffer.length + pipe.content.length :=
  List.length_append

theorem load_eq (reader : FrameReader) (pipe : Pipe) :
    load reader pipe = (reader.unread pipe).length + pipe.reads.length := by
  rw [length_unread, Nat.add_assoc]
  rfl

/-- A call that leaves something has used up something. -/
theorem load_readFrame_lt_or_eq_zero (reader : FrameReader) (pipe : Pipe) :
    load (reader.readFrame pipe).reader (reader.readFrame pipe).source < load reader pipe ∨
      load (reader.readFrame pipe).reader (reader.readFrame pipe).source = 0 := by
  have spends := spends_readFrame reader pipe
  rw [load_eq, load_eq]
  generalize (reader.readFrame pipe).source.reads = left at spends ⊢
  generalize ((reader.readFrame pipe).reader.unread _).length = later at spends ⊢
  generalize (reader.readFrame pipe).item? = item at spends
  cases spends with
  | frame paid shorter =>
      have fewer := shorter.length_le
      simp only [Frame.headerSize] at paid
      omega
  | clean kept shorter used =>
      have fewer := shorter.length_le
      obtain used | ⟨rfl, rfl⟩ := used
      · omega
      · exact .inr rfl
  | cutOff paid shorter =>
      have fewer := shorter.length_le
      omega
  | failed kept _ shorter =>
      have fewer := shorter.length_le
      simp only [List.length_cons] at fewer
      omega

theorem item?_eq_none_of_load_eq_zero {reader : FrameReader} {pipe : Pipe}
    (nothing : load reader pipe = 0) : (reader.readFrame pipe).item? = none := by
  have smaller := load_readFrame reader pipe
  cases yielded : (reader.readFrame pipe).item? with
  | none => rfl
  | some item =>
      simp only [yielded, Option.isSome_some, if_true] at smaller
      omega

theorem load_calls (reader : FrameReader) (pipe : Pipe) (count : Nat) :
    load (reader.calls pipe count).reader (reader.calls pipe count).source + count ≤
        load reader pipe ∨
      load (reader.calls pipe count).reader (reader.calls pipe count).source = 0 := by
  induction count generalizing reader pipe with
  | zero => exact .inl (Nat.le_refl _)
  | succ count ih =>
      have first := load_readFrame_lt_or_eq_zero reader pipe
      have rest := ih (reader.readFrame pipe).reader (reader.readFrame pipe).source
      simp only [calls]
      omega

/-- What some calls yield is paid for with unread bytes and with failures of the script. -/
structure Paid (unread : Nat) (script : List PipeStep) (items : List (Attempt WireError Frame))
    (later : Nat) (left : List PipeStep) : Prop where
  bytes : 4 * items.countP isFrame + items.countP isCutOff + later ≤ unread
  failures : items.countP isFailure + lastingFailures left ≤ lastingFailures script
  all : items.countP isFrame + items.countP isCutOff + items.countP isFailure = items.length

theorem Paid.of_spends {unread between later : Nat} {script middle left : List PipeStep}
    {item : Option (Attempt WireError Frame)} {items : List (Attempt WireError Frame)}
    (spends : Spends unread script item between middle)
    (paid : Paid between middle items later left) :
    Paid unread script (item.toList ++ items) later left := by
  obtain ⟨bytes, failures, all⟩ := paid
  cases spends with
  | frame spent shorter =>
      have fewer := lastingFailures_le_of_suffix shorter
      simp only [Frame.headerSize] at spent
      constructor <;> simp [List.countP_cons, isFrame, isCutOff, isFailure] <;> omega
  | clean kept shorter =>
      have fewer := lastingFailures_le_of_suffix shorter
      constructor <;> simp <;> omega
  | cutOff spent shorter =>
      have fewer := lastingFailures_le_of_suffix shorter
      constructor <;> simp [List.countP_cons, isFrame, isCutOff, isFailure] <;> omega
  | @failed failure _ _ _ kept lasting shorter =>
      have fewer := lastingFailures_le_of_suffix shorter
      rw [lastingFailures_fail lasting] at fewer
      constructor <;> simp [List.countP_cons, isFrame, isCutOff, isFailure] <;> omega

theorem paid_calls (reader : FrameReader) (pipe : Pipe) (count : Nat) :
    Paid (reader.unread pipe).length pipe.reads (reader.yielded pipe count)
      ((reader.calls pipe count).reader.unread (reader.calls pipe count).source).length
      (reader.calls pipe count).source.reads := by
  induction count generalizing reader pipe with
  | zero => constructor <;> simp [calls, yielded]
  | succ count ih => exact (ih _ _).of_spends (spends_readFrame reader pipe)

/-- Reading ends, whatever a pipe does: every call ends after a bounded number of steps, the
frames, lost connections and failures that calls yield are bounded, and after enough calls
every further one meets a clean end. -/
theorem reading_ends (reader : FrameReader) (pipe : Pipe) :
    reader.steps pipe (pipe.content.length + pipe.reads.length + 1) =
      .finished (reader.readFrame pipe) ∧
    (∀ count,
      let items := reader.yielded pipe count
      4 * items.countP isFrame + items.countP isCutOff ≤
        reader.buffer.length + pipe.content.length ∧
      items.countP isFailure ≤ lastingFailures pipe.reads ∧
      items.countP isFrame + items.countP isCutOff + items.countP isFailure = items.length) ∧
    ∀ extra,
      let run := reader.calls pipe
        (reader.buffer.length + pipe.content.length + pipe.reads.length + extra)
      (run.reader.readFrame run.source).item? = none := by
  refine ⟨?_, ?_, ?_⟩
  · exact reader.steps_eq_finished pipe (Nat.lt_succ_self _)
  · intro count items
    obtain ⟨bytes, failures, all⟩ := paid_calls reader pipe count
    rw [length_unread reader pipe] at bytes
    exact ⟨Nat.le_of_add_right_le bytes, Nat.le_of_add_right_le failures, all⟩
  · intro extra run
    apply item?_eq_none_of_load_eq_zero
    have used : load run.reader run.source + _ ≤ load reader pipe ∨
        load run.reader run.source = 0 := load_calls reader pipe _
    rw [load_eq reader pipe, length_unread] at used
    omega

end FrameReader

end RadioMesh
