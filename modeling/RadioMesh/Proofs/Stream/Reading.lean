import RadioMesh.Proofs.Stream.Cutting
import RadioMesh.Stream.FrameReader

/-!
# Calls of a frame reader

`Finishes` lists the four ways in which a step ends its call, and `Reads` follows
the read calls of a source.  Every call gathers the bytes of some quiet outcomes,
after which it goes on, and is then finished by one step.  All facts about the
results of a reader come from these two.  What every step keeps holds at every
point of a run, within a call and after it.
-/

namespace RadioMesh

namespace ReadOutcome

def bytes : ReadOutcome → Bytes
  | .delivered chunk => chunk
  | .failed _ => []

/-- Whether a reader reads on after an outcome. -/
def isQuiet : ReadOutcome → Bool
  | .delivered chunk => !chunk.isEmpty
  | .failed failure => failure == .interrupted

end ReadOutcome

section

variable {σ : Type} [ByteSource σ]

/-- Read calls of a source one after the other, with their outcomes. -/
inductive Reads : σ → List ReadOutcome → σ → Prop where
  | done (source : σ) : Reads source [] source
  | next {source later last : σ} {outcome : ReadOutcome} {outcomes : List ReadOutcome} :
      ByteSource.read source = (outcome, later) →
      Reads later outcomes last →
      Reads source (outcome :: outcomes) last

/-- Some calls of a reader: what they gave, and the reader and the source after
them. -/
structure ReadRun (σ : Type) where
  attempts : List (Attempt WireError (Option Frame))
  reader : FrameReader
  source : σ

/-- The reader after a step. -/
def ReadStep.reader : ReadStep σ → FrameReader
  | .finished call => call.reader
  | .gathered reader _ => reader

/-- The source after a step. -/
def ReadStep.source : ReadStep σ → σ
  | .finished call => call.source
  | .gathered _ source => source

namespace FrameReader

def calls (reader : FrameReader) (source : σ) : Nat → ReadRun σ
  | 0 => ⟨[], reader, source⟩
  | count + 1 =>
      let call := readFrame reader source
      let later := calls call.reader call.source count
      { later with attempts := call.attempt :: later.attempts }

def gather (reader : FrameReader) (bytes : Bytes) : FrameReader :=
  { reader with buffer := reader.buffer ++ bytes }

@[simp] theorem gather_nil (reader : FrameReader) : reader.gather [] = reader := by
  simp [gather]

theorem gather_gather (reader : FrameReader) (first second : Bytes) :
    (reader.gather first).gather second = reader.gather (first ++ second) := by
  simp [gather]

@[simp] theorem buffer_gather (reader : FrameReader) (bytes : Bytes) :
    (reader.gather bytes).buffer = reader.buffer ++ bytes := rfl

/-- The ways in which a step ends its call: with a frame from the buffer, at a
clean end, at an end inside an envelope, or with a failure of the source. -/
inductive Finishes (reader : FrameReader) (source : σ) : ReadResult σ → Prop where
  | frame {frame : Frame} {rest : Bytes} :
      frame.isConsistent = true →
      reader.buffer = frame.encode ++ rest →
      Finishes reader source
        ⟨⟨.ok (some frame), [frame.decodedEvent]⟩, { reader with buffer := rest }, source⟩
  | clean {next : σ} :
      ByteSource.read source = (.delivered [], next) →
      reader.buffer = [] →
      Finishes reader source ⟨⟨.ok none, []⟩, reader, next⟩
  | cutOff {next : σ} :
      ByteSource.read source = (.delivered [], next) →
      reader.buffer ≠ [] →
      Envelope.split? reader.buffer = none →
      Finishes reader source
        ⟨⟨.error .connectionClosed, [.streamEndedMidFrame reader.buffer.length]⟩,
          { reader with buffer := [] }, next⟩
  | failed {failure : IoFailure} {next : σ} :
      ByteSource.read source = (.failed failure, next) →
      failure ≠ .interrupted →
      Finishes reader source ⟨⟨.error (.io failure), []⟩, reader, next⟩

theorem finishes_of_step {reader : FrameReader} {source : σ} {call : ReadResult σ}
    (outcome : reader.step source = .finished call) : Finishes reader source call := by
  unfold step at outcome
  split at outcome
  · next envelope rest found =>
      obtain ⟨frame, consistent, rfl, content⟩ := Envelope.exists_frame_of_split?_eq_some found
      rw [Frame.decode_encode_of_isConsistent consistent] at outcome
      cases outcome
      exact .frame consistent content
  · next missing =>
      split at outcome
      · next next ended =>
          split at outcome
          · next empty =>
              cases outcome
              exact .clean ended (by simpa using empty)
          · next gathered =>
              cases outcome
              exact .cutOff ended (by simpa using gathered) missing
      · cases outcome
      · cases outcome
      · next failure next lasting failed =>
          cases outcome
          exact .failed failed lasting

/-- A step that does not end its call has gathered what one quiet read gave. -/
theorem gathered_of_step {reader later : FrameReader} {source next : σ}
    (outcome : reader.step source = .gathered later next) :
    ∃ read : ReadOutcome, ByteSource.read source = (read, next) ∧ read.isQuiet = true ∧
      later = reader.gather read.bytes := by
  unfold step at outcome
  split at outcome
  · cases outcome
  · split at outcome
    · split at outcome <;> cases outcome
    · next byte chunk rest delivered =>
        cases outcome
        exact ⟨_, delivered, rfl, rfl⟩
    · next rest interrupted =>
        cases outcome
        exact ⟨_, interrupted, rfl, by simp [ReadOutcome.bytes]⟩
    · cases outcome

/-- A call gathers the bytes of some quiet reads and is finished by one step after
them. -/
theorem readFrame_gathers (reader : FrameReader) (source : σ) :
    ∃ (quiet : List ReadOutcome) (middle : σ), Reads source quiet middle ∧
      (∀ outcome ∈ quiet, outcome.isQuiet = true) ∧
      Finishes (reader.gather (quiet.flatMap ReadOutcome.bytes)) middle
        (readFrame reader source) := by
  fun_induction readFrame reader source with
  | case1 reader source call outcome =>
      exact ⟨[], source, .done source, by simp, by simpa using finishes_of_step outcome⟩
  | case2 reader source later next outcome ih =>
      obtain ⟨read, delivered, quietRead, rfl⟩ := gathered_of_step outcome
      obtain ⟨quiet, middle, reads, allQuiet, finishes⟩ := ih
      refine ⟨read :: quiet, middle, .next delivered reads, ?_, ?_⟩
      · intro outcome member
        rcases List.mem_cons.mp member with rfl | later
        · exact quietRead
        · exact allQuiet outcome later
      · rwa [gather_gather, ← List.flatMap_cons] at finishes

/-- At most so many steps of one call. -/
def steps (reader : FrameReader) (source : σ) : Nat → ReadStep σ
  | 0 => .gathered reader source
  | fuel + 1 =>
      match reader.step source with
      | .finished call => .finished call
      | .gathered later next => steps later next fuel

theorem readFrame_eq (reader : FrameReader) (source : σ) :
    reader.readFrame source =
      match reader.step source with
      | .finished call => call
      | .gathered later next => later.readFrame next := by
  rw [readFrame]
  split
  · next call same => rw [same]
  · next later next same => rw [same]

/-- A call ends after as many steps as the budget of the source allows. -/
theorem steps_eq_finished (reader : FrameReader) (source : σ) {fuel : Nat}
    (enough : ByteSource.budget source < fuel) :
    reader.steps source fuel = .finished (reader.readFrame source) := by
  induction fuel generalizing reader source with
  | zero => cases enough
  | succ fuel ih =>
      rw [steps, readFrame_eq]
      cases outcome : reader.step source with
      | finished call => rfl
      | gathered later next =>
          have less := (load_of_step_gathered outcome).1
          exact ih later next (by omega)

/-- A step that finds a whole envelope takes it and leaves the source alone. -/
theorem step_of_split?_eq_some {reader : FrameReader} {envelope rest : Bytes}
    (found : Envelope.split? reader.buffer = some (envelope, rest)) (source : σ) :
    (reader.step source).reader = { reader with buffer := rest } ∧
      (reader.step source).source = source := by
  rw [step, found]
  exact ⟨rfl, rfl⟩

/-- A step that finds no whole envelope makes one read call.  It adds what was read to the
buffer, or the buffer is empty afterwards. -/
theorem step_of_split?_eq_none {reader : FrameReader}
    (missing : Envelope.split? reader.buffer = none) (source : σ) :
    ((reader.step source).reader = reader.gather (ByteSource.read source).1.bytes ∨
      (reader.step source).reader.buffer = []) ∧
      (reader.step source).source = (ByteSource.read source).2 := by
  rw [step, missing]
  obtain ⟨outcome, next⟩ := ByteSource.read source
  match outcome with
  | .delivered [] =>
      cases content : reader.buffer with
      | nil => exact ⟨.inr content, rfl⟩
      | cons byte bytes => exact ⟨.inr rfl, rfl⟩
  | .delivered (byte :: chunk) => exact ⟨.inl rfl, rfl⟩
  | .failed failure =>
      have kept : reader = reader.gather [] := reader.gather_nil.symm
      cases failure <;> exact ⟨.inl kept, rfl⟩

/-- What holds of a reader and its source as long as steps keep it. -/
theorem holds_steps {holds : FrameReader → σ → Prop}
    (kept : ∀ reader source, holds reader source →
      holds (reader.step source).reader (reader.step source).source)
    {reader : FrameReader} {source : σ} (first : holds reader source) (fuel : Nat) :
    holds (reader.steps source fuel).reader (reader.steps source fuel).source := by
  induction fuel generalizing reader source with
  | zero => exact first
  | succ fuel ih =>
      have second := kept reader source first
      rw [steps]
      cases outcome : reader.step source with
      | finished call =>
          rw [outcome] at second
          exact second
      | gathered later next =>
          rw [outcome] at second
          exact ih second

theorem holds_calls {holds : FrameReader → σ → Prop}
    (kept : ∀ reader source, holds reader source →
      holds (reader.step source).reader (reader.step source).source)
    {reader : FrameReader} {source : σ} (first : holds reader source) (count : Nat) :
    holds (reader.calls source count).reader (reader.calls source count).source := by
  induction count generalizing reader source with
  | zero => exact first
  | succ count ih =>
      have ended := holds_steps kept first (ByteSource.budget source + 1)
      rw [steps_eq_finished reader source (Nat.lt_succ_self _)] at ended
      exact ih ended

end FrameReader

end

end RadioMesh
