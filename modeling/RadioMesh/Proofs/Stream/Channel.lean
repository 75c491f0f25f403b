import RadioMesh.Proofs.Stream.Writing
import RadioMesh.Proofs.Record.HubMessage

/-!
# A channel of frames

A writer and a reader that share a pipe form a channel.  Its invariant is that the
unread bytes are the encodings of the frames that were accepted and not yet
returned, in their order.  So over an obliging pipe no operation loses a frame,
changes one, or gives one too early.
-/

namespace RadioMesh

inductive WriteOperation
  | send (opcode : UInt8) (handle : UInt16) (data : Bytes)
  | writeFrame (frame : Frame)
  | writeHub (message : HubMessage)
  deriving DecidableEq, Repr

namespace WriteOperation

/-- The frame that an operation offers to the writer. -/
def built : WriteOperation → Except WireError Frame
  | send opcode handle data => Frame.ofData opcode handle data
  | writeFrame frame => .ok frame
  | writeHub message => message.toFrame

def perform (writer : FrameWriter) (pipe : Pipe) : WriteOperation → WriteResult
  | send opcode handle data => writer.send opcode handle data pipe
  | writeFrame frame => writer.writeFrame frame pipe
  | writeHub message => writer.writeHub message pipe

theorem perform_eq_writeBuilt (writer : FrameWriter) (pipe : Pipe)
    (operation : WriteOperation) :
    operation.perform writer pipe = writer.writeBuilt operation.built pipe := by
  cases operation <;> rfl

/-- The data of an operation fits into a frame and is not too much for the writer, and its length
is the one that is declared. -/
def Fits (limit : Nat) : WriteOperation → Prop
  | send _ _ data => data.length ≤ 255 ∧ data.length ≤ limit
  | writeFrame frame =>
      frame.data.length ≤ limit ∧ frame.dataLength.toNat = frame.data.length
  | writeHub message =>
      8 + message.payload.length ≤ 255 ∧ 8 + message.payload.length ≤ limit

/-- Why an operation is rejected: it has no frame to offer, or the writer takes no part of the
frame. -/
inductive Rejects (writer : FrameWriter) (operation : WriteOperation) (error : WireError) :
    Prop where
  | unbuilt :
      operation.built = .error error →
      Rejects writer operation error
  | refused {frame : Frame} :
      operation.built = .ok frame →
      writer.rejection? frame = some error →
      Rejects writer operation error

theorem exists_ofData_iff {writer : FrameWriter} {opcode : UInt8} {handle : UInt16}
    {data : Bytes} :
    (∃ frame, Frame.ofData opcode handle data = .ok frame ∧ writer.rejection? frame = none) ↔
      data.length ≤ 255 ∧ data.length ≤ writer.config.maxDataSize := by
  simp only [FrameWriter.rejection?_eq_none_iff]
  constructor
  · rintro ⟨frame, built, short, _⟩
    obtain ⟨fits, rfl⟩ := Frame.ofData_eq_ok_iff.mp built
    exact ⟨fits, short⟩
  · rintro ⟨fits, short⟩
    have built := (@Frame.ofData_eq_ok_iff opcode handle data _).mpr ⟨fits, rfl⟩
    exact ⟨_, built, short, Frame.isConsistent_of_ofData built⟩

/-- An operation is rejected as too large or as malformed. -/
theorem Rejects.isRejection {writer : FrameWriter} {operation : WriteOperation}
    {error : WireError} (rejects : operation.Rejects writer error) : error.isRejection = true := by
  have limited : ∀ {opcode handle data}, Frame.ofData opcode handle data = .error error →
      error.isRejection = true := by
    intro opcode handle data refused
    unfold Frame.ofData at refused
    split at refused
    · cases refused
    · cases refused
      rfl
  cases rejects with
  | refused _ rejected => exact FrameWriter.isRejection_of_rejection?_eq_some rejected
  | unbuilt unbuilt =>
      cases operation with
      | send opcode handle data => exact limited unbuilt
      | writeFrame frame => cases unbuilt
      | writeHub message => exact limited unbuilt

/-- An operation fits if it has a frame to offer and the writer takes the frame. -/
theorem fits_iff {writer : FrameWriter} {operation : WriteOperation} :
    operation.Fits writer.config.maxDataSize ↔
      ∃ frame, operation.built = .ok frame ∧ writer.rejection? frame = none := by
  cases operation with
  | send opcode handle data => exact exists_ofData_iff.symm
  | writeFrame frame =>
      simp [Fits, built, FrameWriter.rejection?_eq_none_iff, Frame.isConsistent_iff]
  | writeHub message =>
      have length : message.data.length = 8 + message.payload.length := message.length_data
      rw [Fits, ← length]
      exact exists_ofData_iff.symm

theorem Rejects.not_fits {writer : FrameWriter} {operation : WriteOperation} {error : WireError}
    (rejects : operation.Rejects writer error) :
    ¬operation.Fits writer.config.maxDataSize := by
  rw [fits_iff]
  rintro ⟨other, same, taken⟩
  cases rejects with
  | unbuilt unbuilt =>
      rw [unbuilt] at same
      cases same
  | refused built rejected =>
      cases built.symm.trans same
      rw [rejected] at taken
      cases taken

/-- The frame of an operation, if the operation has been carried out. -/
def acceptedFrames (operation : WriteOperation) (result : Except WireError Unit) :
    List Frame :=
  match result, operation.built with
  | .ok (), .ok frame => [frame]
  | _, _ => []

end WriteOperation

inductive ChannelOperation
  | write (operation : WriteOperation)
  | read
  deriving DecidableEq, Repr

inductive ChannelReply
  | written (result : Except WireError Unit)
  | read (result : Except WireError (Option Frame))

/-- The frame that a read call has returned. -/
def returnedFrames : Except WireError (Option Frame) → List Frame
  | .ok (some frame) => [frame]
  | _ => []

/-- A writer and a reader with a pipe between them, and the frames that have been
accepted and returned so far. -/
structure Channel where
  writer : FrameWriter
  reader : FrameReader
  pipe : Pipe
  accepted : List Frame
  returned : List Frame

namespace Channel

def opened (writing reading : StreamConfig) (pipe : Pipe) : Channel :=
  ⟨⟨writing⟩, FrameReader.fresh reading, pipe, [], []⟩

def step (channel : Channel) : ChannelOperation → ChannelReply × Channel
  | .write operation =>
      let call := operation.perform channel.writer channel.pipe
      (.written call.result,
        { channel with
          pipe := call.pipe
          accepted := channel.accepted ++ operation.acceptedFrames call.result })
  | .read =>
      let call := channel.reader.readFrame channel.pipe
      (.read call.attempt.result,
        { channel with
          reader := call.reader
          pipe := call.source
          returned := channel.returned ++ returnedFrames call.attempt.result })

def run (channel : Channel) : List ChannelOperation → Channel
  | [] => channel
  | operation :: rest => (channel.step operation).2.run rest

/-- The unread bytes are the frames between those returned and those accepted. -/
structure Sound (channel : Channel) : Prop where
  obliging : channel.pipe.Obliging
  underway : ∃ frames : List Frame,
    channel.accepted = channel.returned ++ frames ∧
      (∀ frame ∈ frames, frame.isConsistent = true) ∧
      channel.reader.unread channel.pipe = frames.flatMap Frame.encode

theorem sound_opened (writing reading : StreamConfig) {pipe : Pipe}
    (empty : pipe.content = []) (obliging : pipe.Obliging) :
    (opened writing reading pipe).Sound := by
  refine ⟨obliging, [], rfl, by simp, ?_⟩
  simp [opened, FrameReader.unread, FrameReader.fresh, empty]

theorem Sound.returned_prefix_accepted {channel : Channel} (sound : channel.Sound) :
    channel.returned <+: channel.accepted := by
  obtain ⟨frames, accepted, _⟩ := sound.underway
  exact ⟨frames, accepted.symm⟩

/-- A write operation is either carried out as a whole, or rejected for what it offers,
without any trace. -/
inductive Writes (channel : Channel) (operation : WriteOperation) :
    ChannelReply → Channel → Prop where
  | accepted {frame : Frame} {pipe : Pipe} :
      operation.Fits channel.writer.config.maxDataSize →
      operation.built = .ok frame →
      frame.isConsistent = true →
      pipe.Obliging →
      pipe.content = channel.pipe.content ++ frame.encode →
      Writes channel operation (.written (.ok ()))
        { channel with pipe := pipe, accepted := channel.accepted ++ [frame] }
  | rejected {error : WireError} :
      ¬operation.Fits channel.writer.config.maxDataSize →
      operation.Rejects channel.writer error →
      Writes channel operation (.written (.error error)) channel

theorem writes_step {channel : Channel} (obliging : channel.pipe.Obliging)
    (operation : WriteOperation) :
    Writes channel operation (channel.step (.write operation)).1
      (channel.step (.write operation)).2 := by
  simp only [step, operation.perform_eq_writeBuilt]
  cases built : operation.built with
  | error error =>
      have rejects : operation.Rejects channel.writer error := .unbuilt built
      simpa [FrameWriter.writeBuilt, WriteOperation.acceptedFrames] using
        Writes.rejected rejects.not_fits rejects
  | ok frame =>
      cases refused : channel.writer.rejection? frame with
      | some error =>
          have rejects : operation.Rejects channel.writer error := .refused built refused
          simpa [FrameWriter.writeBuilt, WriteOperation.acceptedFrames,
            FrameWriter.writeFrame_of_rejection? refused] using
            Writes.rejected rejects.not_fits rejects
      | none =>
          have fits := WriteOperation.fits_iff.mpr ⟨frame, built, refused⟩
          obtain ⟨next, whole, still, content⟩ :=
            FrameWriter.writeFrame_of_obliging obliging refused
          have consistent := (FrameWriter.rejection?_eq_none_iff.mp refused).2
          simpa [FrameWriter.writeBuilt, whole, WriteOperation.acceptedFrames, built] using
            Writes.accepted fits built consistent still content

theorem Sound.of_writes {channel next : Channel} {operation : WriteOperation}
    {reply : ChannelReply} (sound : channel.Sound)
    (writes : Writes channel operation reply next) : next.Sound := by
  cases writes with
  | rejected _ _ => exact sound
  | @accepted frame pipe fits built consistent obliging content =>
      obtain ⟨frames, accepted, allConsistent, unread⟩ := sound.underway
      refine ⟨obliging, frames ++ [frame], ?_, ?_, ?_⟩
      · rw [accepted, List.append_assoc]
      · intro other member
        rcases List.mem_append.mp member with earlier | last
        · exact allConsistent other earlier
        · rw [List.mem_singleton.mp last]
          exact consistent
      · simp only [FrameReader.unread] at unread ⊢
        rw [content, ← List.append_assoc, unread]
        simp

/-- A read call returns the next frame that is underway, or finds that there is none,
or passes on a failure of the pipe and leaves everything as it was. -/
inductive ReadsNext (channel : Channel) : ChannelReply → Channel → Prop where
  | returned {frame : Frame} {reader : FrameReader} {pipe : Pipe} :
      ReadsNext channel (.read (.ok (some frame)))
        { channel with
          reader := reader
          pipe := pipe
          returned := channel.returned ++ [frame] }
  | nothing {reader : FrameReader} {pipe : Pipe} :
      channel.returned = channel.accepted →
      ReadsNext channel (.read (.ok none)) { channel with reader := reader, pipe := pipe }
  | failed {failure : IoFailure} {reader : FrameReader} {pipe : Pipe} :
      .fail failure ∈ channel.pipe.reads →
      failure ≠ .interrupted →
      ReadsNext channel (.read (.error (.io failure)))
        { channel with reader := reader, pipe := pipe }

theorem sound_step_read {channel : Channel} (sound : channel.Sound) :
    (channel.step .read).2.Sound ∧
      ReadsNext channel (channel.step .read).1 (channel.step .read).2 := by
  obtain ⟨still, _, draws⟩ := FrameReader.draws_readFrame sound.obliging channel.reader
  obtain ⟨frames, accepted, allConsistent, unread⟩ := sound.underway
  simp only [step]
  generalize channel.reader.readFrame channel.pipe = call at still draws ⊢
  obtain ⟨⟨result, events⟩, reader, pipe⟩ := call
  simp only at still draws ⊢
  generalize left : reader.unread pipe = rest at draws
  cases draws with
  | frame consistent content =>
      obtain ⟨later, rfl, rfl⟩ :=
        Envelope.eq_cons_of_flatMap_encode_eq consistent allConsistent (unread.symm.trans content)
      refine ⟨⟨still, later, ?_, ?_, left⟩, .returned⟩
      · simp [accepted, returnedFrames]
      · intro other member
        exact allConsistent other (List.mem_cons_of_mem _ member)
  | clean empty =>
      cases frames with
      | nil =>
          refine ⟨⟨still, [], ?_, by simp, by simpa using left⟩, ?_⟩
          · simpa [returnedFrames] using accepted
          · simpa [returnedFrames] using ReadsNext.nothing (by simpa using accepted.symm)
      | cons first later =>
          rw [unread] at empty
          simp [Frame.encode] at empty
  | cutOff nonempty missing =>
      cases frames with
      | nil => exact absurd unread nonempty
      | cons first later =>
          rw [unread, List.flatMap_cons,
            Envelope.split?_encode_append (allConsistent first List.mem_cons_self)] at missing
          cases missing
  | failed scripted lasting =>
      refine ⟨⟨still, frames, ?_, allConsistent, left.trans unread⟩, ?_⟩
      · simpa [returnedFrames] using accepted
      · simpa [returnedFrames] using ReadsNext.failed scripted lasting

theorem sound_step {channel : Channel} (sound : channel.Sound)
    (operation : ChannelOperation) : (channel.step operation).2.Sound := by
  cases operation with
  | write operation => exact sound.of_writes (writes_step sound.obliging operation)
  | read => exact (sound_step_read sound).1

theorem sound_run {channel : Channel} (sound : channel.Sound)
    (operations : List ChannelOperation) : (channel.run operations).Sound := by
  induction operations generalizing channel with
  | nil => exact sound
  | cons operation operations ih => exact ih (sound_step sound operation)

theorem writer_step (channel : Channel) (operation : ChannelOperation) :
    (channel.step operation).2.writer = channel.writer := by
  cases operation <;> rfl

theorem writer_run (channel : Channel) (operations : List ChannelOperation) :
    (channel.run operations).writer = channel.writer := by
  induction operations generalizing channel with
  | nil => rfl
  | cons operation operations ih => rw [run, ih, writer_step]

/-- Whatever was done before on a channel over an obliging pipe, a write operation is
carried out if it fits the writer and else rejected without a trace, and a read call
returns the next frame, says that all were returned, or passes on a failure of the
pipe.  At every time the returned frames are the first of the accepted ones. -/
theorem step_run_lossless (writing reading : StreamConfig) {pipe : Pipe}
    (empty : pipe.content = []) (obliging : pipe.Obliging)
    (operations : List ChannelOperation) (operation : ChannelOperation) :
    let channel := (opened writing reading pipe).run operations
    let reply := (channel.step operation).1
    let next := (channel.step operation).2
    next.returned <+: next.accepted ∧
      match operation with
      | .write write =>
          (∃ frame, reply = .written (.ok ()) ∧ write.Fits writing.maxDataSize ∧
            write.built = .ok frame ∧
            next.accepted = channel.accepted ++ [frame] ∧
            next.returned = channel.returned ∧
            ∀ message, write = .writeHub message → HubMessage.ofFrame frame = .ok message) ∨
          (∃ error, reply = .written (.error error) ∧ ¬write.Fits writing.maxDataSize ∧
            write.Rejects ⟨writing⟩ error ∧ error.isRejection = true ∧ next = channel)
      | .read =>
          (∃ frame, reply = .read (.ok (some frame)) ∧
            next.accepted = channel.accepted ∧
            next.returned = channel.returned ++ [frame]) ∨
          (reply = .read (.ok none) ∧ channel.returned = channel.accepted ∧
            next.accepted = channel.accepted ∧ next.returned = channel.returned) ∨
          (∃ failure, reply = .read (.error (.io failure)) ∧
            .fail failure ∈ channel.pipe.reads ∧ failure ≠ .interrupted ∧
            next.accepted = channel.accepted ∧ next.returned = channel.returned) := by
  intro channel reply next
  have sound : channel.Sound := sound_run (sound_opened writing reading empty obliging) operations
  refine ⟨(sound_step sound operation).returned_prefix_accepted, ?_⟩
  have sameWriter : channel.writer = ⟨writing⟩ := writer_run _ operations
  cases operation with
  | write write =>
      have writes : Writes channel write reply next := writes_step sound.obliging write
      generalize reply = answer at writes
      generalize next = later at writes
      cases writes with
      | @accepted frame _ fits built _ _ _ =>
          rw [sameWriter] at fits
          refine .inl ⟨frame, rfl, fits, built, rfl, rfl, ?_⟩
          rintro message rfl
          exact HubMessage.ofFrame_of_toFrame_eq_ok built
      | @rejected error unfit rejects =>
          rw [sameWriter] at unfit rejects
          exact .inr ⟨error, rfl, unfit, rejects, rejects.isRejection, rfl⟩
  | read =>
      have readsNext : ReadsNext channel reply next := (sound_step_read sound).2
      generalize reply = answer at readsNext
      generalize next = later at readsNext
      cases readsNext with
      | @returned frame _ _ => exact .inl ⟨frame, rfl, rfl, rfl⟩
      | nothing all => exact .inr (.inl ⟨rfl, all, rfl, rfl⟩)
      | @failed failure _ _ scripted lasting =>
          exact .inr (.inr ⟨failure, rfl, scripted, lasting, rfl, rfl⟩)

/-- A pipe that takes one byte, then asks to wait, and that breaks off a read. -/
theorem step_run_lossless_of_slow_pipe :
    let pipe : Pipe :=
      ⟨[], [.limit 2, .fail .interrupted, .fail .timedOut],
        [.limit 1, .fail .wouldBlock], [.fail .interrupted], 0⟩
    let channel := (opened {} ⟨.strict, 3⟩ pipe).run
      [.write (.send 1 2 [7]), .write (.writeFrame ⟨1, 2, 9, [7]⟩), .read]
    pipe.content = [] ∧ pipe.Obliging ∧ channel.returned = [] ∧
      (channel.step .read).2.returned = [⟨1, 2, 1, [7]⟩] ∧
      (channel.step .read).2.returned <+: (channel.step .read).2.accepted := by
  intro pipe channel
  have obliging : pipe.Obliging := by
    refine ⟨by decide, by decide, ?_⟩
    rintro failure (member | member)
    · obtain rfl : failure = .wouldBlock := by simpa [pipe] using member
      rfl
    · obtain rfl : failure = .interrupted := by simpa [pipe] using member
      rfl
  refine ⟨rfl, obliging, by decide +kernel, by decide +kernel, ?_⟩
  exact (step_run_lossless {} ⟨.strict, 3⟩ rfl obliging
    [.write (.send 1 2 [7]), .write (.writeFrame ⟨1, 2, 9, [7]⟩), .read] .read).1

end Channel

end RadioMesh
