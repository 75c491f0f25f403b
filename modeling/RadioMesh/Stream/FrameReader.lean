import RadioMesh.Record.Frame
import RadioMesh.Stream.ByteSource
import RadioMesh.Stream.Envelope

/-!
# Reading frames from a stream

A frame reader gathers the bytes of a source in a buffer and cuts whole
envelopes off its front.  It reads only while the buffer holds no whole
envelope.  A source that ends inside an envelope loses what was gathered of it.
Reading ends because each call that gives a frame or an error uses up part of
the load, which is what lies in the buffer and what is left in the source.
-/

namespace RadioMesh

/-- How a stream is read and written. -/
structure StreamConfig where
  policy : LengthPolicy := .permissive
  maxDataSize : Nat := Frame.dataLimit
  deriving DecidableEq, Repr

/-- A reader, with the bytes that are not yet part of a frame. -/
structure FrameReader where
  config : StreamConfig
  buffer : Bytes
  deriving DecidableEq, Repr

/-- What a call of a reader gives: perhaps a frame, and the reader and the
source after it. -/
structure ReadResult (σ : Type) where
  attempt : Attempt WireError (Option Frame)
  reader : FrameReader
  source : σ

/-- The frame or error of a call.  At a clean end there is neither. -/
def ReadResult.item? {σ : Type} (call : ReadResult σ) : Option (Attempt WireError Frame) :=
  match call.attempt.result with
  | .ok none => none
  | .ok (some frame) => some ⟨.ok frame, call.attempt.events⟩
  | .error error => some ⟨.error error, call.attempt.events⟩

/-- What one step of a call leads to: the end of the call, or a reader that has
more of the source behind it. -/
inductive ReadStep (σ : Type)
  | finished (call : ReadResult σ)
  | gathered (reader : FrameReader) (source : σ)

namespace FrameReader

/-- A reader that has gathered nothing. -/
def fresh (config : StreamConfig) : FrameReader := ⟨config, []⟩

variable {σ : Type} [ByteSource σ]

/-- One step of a call.  A whole envelope in the buffer ends the call; otherwise
the step makes one read call. -/
def step (reader : FrameReader) (source : σ) : ReadStep σ :=
  match Envelope.split? reader.buffer with
  | some (envelope, rest) =>
      .finished ⟨some <$> Frame.decode reader.config.policy envelope,
        { reader with buffer := rest }, source⟩
  | none =>
      match ByteSource.read source with
      | (.delivered [], next) =>
          if reader.buffer.isEmpty then .finished ⟨pure none, reader, next⟩
          else
            .finished
              ⟨⟨.error .connectionClosed, [.streamEndedMidFrame reader.buffer.length]⟩,
                { reader with buffer := [] }, next⟩
      | (.delivered (byte :: chunk), next) =>
          .gathered { reader with buffer := reader.buffer ++ byte :: chunk } next
      | (.failed .interrupted, next) => .gathered reader next
      | (.failed failure, next) => .finished ⟨.fail (.io failure), reader, next⟩

/-- What is left to read: the gathered bytes and the budget of the source. -/
def load (reader : FrameReader) (source : σ) : Nat :=
  reader.buffer.length + ByteSource.budget source

/-- A step that does not end its call uses up some of the source and adds nothing
to the load. -/
theorem load_of_step_gathered {reader later : FrameReader} {source next : σ}
    (outcome : reader.step source = .gathered later next) :
    ByteSource.budget next < ByteSource.budget source ∧
      load later next ≤ load reader source := by
  unfold step at outcome
  have paid := ByteSource.budget_read source
  split at outcome
  · cases outcome
  · split at outcome
    · split at outcome <;> cases outcome
    · next byte chunk rest delivered =>
        cases outcome
        rw [delivered] at paid
        simp only [ReadOutcome.cost, List.length_cons] at paid
        simp only [load, List.length_append, List.length_cons]
        omega
    · next rest interrupted =>
        cases outcome
        rw [interrupted] at paid
        simp only [ReadOutcome.cost] at paid
        simp only [load]
        omega
    · cases outcome

/-- A step that ends its call adds nothing to the load, and takes from it if the
call gives a frame or an error. -/
theorem load_of_step_finished {reader : FrameReader} {source : σ} {call : ReadResult σ}
    (outcome : reader.step source = .finished call) :
    load call.reader call.source + (if call.item?.isSome then 1 else 0) ≤
      load reader source := by
  unfold step at outcome
  have paid := ByteSource.budget_read source
  split at outcome
  · next envelope rest found =>
      cases outcome
      have shorter := Envelope.length_of_split?_eq_some found
      simp only [load]
      split <;> omega
  · split at outcome
    · next next ended =>
        rw [ended] at paid
        simp only [ReadOutcome.cost, List.length_nil] at paid
        split at outcome
        · cases outcome
          simp only [load, ReadResult.item?, Attempt.result_pure, Option.isSome_none,
            Bool.false_eq_true, if_false]
          omega
        · next gathered =>
            cases outcome
            have positive : 0 < reader.buffer.length := by
              cases content : reader.buffer with
              | nil => simp [content] at gathered
              | cons byte bytes => simp
            simp only [load, ReadResult.item?, Option.isSome_some, if_true, List.length_nil]
            omega
    · cases outcome
    · cases outcome
    · next failure next retried failed =>
        cases outcome
        rw [failed] at paid
        simp only [ReadOutcome.cost] at paid
        simp only [load]
        split <;> omega

def readFrame (reader : FrameReader) (source : σ) : ReadResult σ :=
  match _ : reader.step source with
  | .finished call => call
  | .gathered later next => readFrame later next
termination_by ByteSource.budget source
decreasing_by
  exact (load_of_step_gathered ‹reader.step source = .gathered later next›).1

/-- A call that gives a frame or an error leaves less to read. -/
theorem load_readFrame (reader : FrameReader) (source : σ) :
    load (readFrame reader source).reader (readFrame reader source).source +
        (if (readFrame reader source).item?.isSome then 1 else 0) ≤
      load reader source := by
  fun_induction readFrame reader source with
  | case1 reader source call outcome => exact load_of_step_finished outcome
  | case2 reader source later next outcome smaller =>
      exact Nat.le_trans smaller (load_of_step_gathered outcome).2

/-- The frames and errors of up to `count` calls, stopping at a clean end, and
the reader and the source after them. -/
def take (reader : FrameReader) (source : σ) :
    Nat → List (Attempt WireError Frame) × FrameReader × σ
  | 0 => ([], reader, source)
  | count + 1 =>
      let call := readFrame reader source
      match call.item? with
      | none => ([], call.reader, call.source)
      | some item =>
          let (items, last) := take call.reader call.source count
          (item :: items, last)

/-- The frames and errors of all calls up to the first clean end. -/
def items (reader : FrameReader) (source : σ) : List (Attempt WireError Frame) :=
  let call := readFrame reader source
  match _ : call.item? with
  | none => []
  | some item => item :: items call.reader call.source
termination_by load reader source
decreasing_by
  have smaller := load_readFrame reader source
  rw [show (readFrame reader source).item? = some item from ‹call.item? = some item›]
    at smaller
  simp only [Option.isSome_some, if_true] at smaller
  omega

end FrameReader

end RadioMesh
