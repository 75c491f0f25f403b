import RadioMesh.Proofs.Stream.Reading
import RadioMesh.Stream.Pipe

/-!
# Obliging pipes

An obliging pipe may move bytes in small pieces and may fail for passing reasons, but
in the end it takes what it is offered, and it delivers something as long as it
holds something.  Every call takes bytes off the front of its content or puts them
behind it, and uses up some of its scripts.
-/

namespace RadioMesh

namespace Pipe

/-- A pipe whose write and flush calls fail only for passing reasons, and whose read
and write calls move at least one byte if they do not fail. -/
structure Obliging (pipe : Pipe) : Prop where
  delivers : .limit 0 ∉ pipe.reads
  accepts : .limit 0 ∉ pipe.writes
  retries : ∀ failure, .fail failure ∈ pipe.writes ∨ .fail failure ∈ pipe.flushes →
    failure.isTransient = true

theorem obliging_ofBytes (content : Bytes) : (ofBytes content).Obliging := by
  constructor <;> simp [ofBytes]

/-- What is left of the scripts of an obliging pipe is still obliging. -/
theorem Obliging.of_suffix {pipe later : Pipe} (obliging : pipe.Obliging)
    (reads : later.reads <:+ pipe.reads) (writes : later.writes <:+ pipe.writes)
    (flushes : later.flushes <:+ pipe.flushes) : later.Obliging := by
  refine ⟨?_, ?_, ?_⟩
  · intro member
    exact obliging.delivers (reads.subset member)
  · intro member
    exact obliging.accepts (writes.subset member)
  · rintro failure (member | member)
    · exact obliging.retries failure (.inl (writes.subset member))
    · exact obliging.retries failure (.inr (flushes.subset member))

theorem pipe_of_write_ok {pipe next : Pipe} {offered : Bytes} {count : Nat}
    (outcome : pipe.write offered = (.ok count, next)) :
    ∃ writes, writes <:+ pipe.writes ∧
      next = { pipe with content := pipe.content ++ offered.take count, writes := writes } := by
  unfold write at outcome
  split at outcome
  · cases outcome
    exact ⟨pipe.writes, List.suffix_refl _, by simp⟩
  · next limit writes script =>
      cases outcome
      refine ⟨writes, ?_, ?_⟩
      · rw [script]
        exact List.suffix_cons _ writes
      · rw [← List.take_eq_take_min]
  · cases outcome

theorem pipe_of_write_error {pipe next : Pipe} {offered : Bytes} {failure : IoFailure}
    (outcome : pipe.write offered = (.error failure, next)) :
    ∃ writes, pipe.writes = .fail failure :: writes ∧ next = { pipe with writes := writes } := by
  unfold write at outcome
  split at outcome
  · cases outcome
  · cases outcome
  · next failed writes script =>
      cases outcome
      exact ⟨writes, script, rfl⟩

theorem pipe_of_flush_ok {pipe next : Pipe} (outcome : pipe.flush = (.ok (), next)) :
    ∃ flushes, flushes <:+ pipe.flushes ∧
      next = { pipe with flushes := flushes, flushed := pipe.flushed + 1 } := by
  unfold flush at outcome
  split at outcome
  · cases outcome
    exact ⟨pipe.flushes, List.suffix_refl _, rfl⟩
  · next limit flushes script =>
      cases outcome
      refine ⟨flushes, ?_, rfl⟩
      rw [script]
      exact List.suffix_cons _ flushes
  · cases outcome

theorem pipe_of_flush_error {pipe next : Pipe} {failure : IoFailure}
    (outcome : pipe.flush = (.error failure, next)) :
    ∃ flushes, pipe.flushes = .fail failure :: flushes ∧
      next = { pipe with flushes := flushes } := by
  unfold flush at outcome
  split at outcome
  · cases outcome
  · cases outcome
  · next failed flushes script =>
      cases outcome
      exact ⟨flushes, script, rfl⟩

/-- An obliging pipe takes something of what it is offered. -/
theorem write_ne_ok_zero {pipe next : Pipe} {offered : Bytes} (obliging : pipe.Obliging)
    (more : offered ≠ []) : pipe.write offered ≠ (.ok 0, next) := by
  have positive := List.length_pos_iff.mpr more
  intro outcome
  unfold write at outcome
  split at outcome
  · simp only [Prod.mk.injEq, Except.ok.injEq] at outcome
    omega
  · next limit writes script =>
      have nonzero : limit ≠ 0 := by
        rintro rfl
        exact obliging.accepts (by simp [script])
      simp only [Prod.mk.injEq, Except.ok.injEq] at outcome
      omega
  · cases outcome

theorem pipe_of_read {pipe next : Pipe} {outcome : ReadOutcome}
    (taken : ByteSource.read pipe = (outcome, next)) :
    ∃ reads, reads <:+ pipe.reads ∧ pipe.content = outcome.bytes ++ next.content ∧
      next = { pipe with content := next.content, reads := reads } := by
  change pipe.read = (outcome, next) at taken
  unfold read at taken
  split at taken
  · cases taken
    exact ⟨pipe.reads, List.suffix_refl _, (List.take_append_drop _ _).symm, rfl⟩
  · next count reads script =>
      cases taken
      refine ⟨reads, ?_, (List.take_append_drop _ _).symm, rfl⟩
      rw [script]
      exact List.suffix_cons _ reads
  · next failure reads script =>
      cases taken
      refine ⟨reads, ?_, rfl, rfl⟩
      rw [script]
      exact List.suffix_cons _ reads

theorem Obliging.of_read {pipe next : Pipe} {outcome : ReadOutcome} (obliging : pipe.Obliging)
    (taken : ByteSource.read pipe = (outcome, next)) : next.Obliging := by
  obtain ⟨reads, shorter, _, after⟩ := pipe_of_read taken
  rw [after]
  exact obliging.of_suffix shorter (List.suffix_refl _) (List.suffix_refl _)

/-- An obliging pipe delivers nothing only when it holds nothing. -/
theorem content_eq_nil_of_read {pipe next : Pipe} (obliging : pipe.Obliging)
    (ended : ByteSource.read pipe = (.delivered [], next)) :
    pipe.content = [] ∧ next.content = [] := by
  obtain ⟨_, _, content, _⟩ := pipe_of_read ended
  suffices nothing : next.content = [] from ⟨by rw [content, nothing]; rfl, nothing⟩
  change pipe.read = (.delivered [], next) at ended
  unfold read at ended
  split at ended
  · simp only [take, Prod.mk.injEq, ReadOutcome.delivered.injEq, List.take_eq_nil_iff] at ended
    obtain ⟨none | nothing, rfl⟩ := ended
    · cases none
    · simp [nothing]
  · next count reads script =>
      have nonzero : count ≠ 0 := by
        rintro rfl
        exact obliging.delivers (by simp [script])
      simp only [take, Prod.mk.injEq, ReadOutcome.delivered.injEq, List.take_eq_nil_iff] at ended
      obtain ⟨none | nothing, rfl⟩ := ended
      · simp only [chunkSize] at none
        omega
      · simp [nothing]
  · cases ended

theorem content_of_reads {pipe last : Pipe} {outcomes : List ReadOutcome}
    (reads : Reads pipe outcomes last) :
    pipe.content = outcomes.flatMap ReadOutcome.bytes ++ last.content := by
  induction reads with
  | done pipe => rfl
  | next taken reads ih =>
      obtain ⟨_, _, content, _⟩ := pipe_of_read taken
      rw [content, ih, List.flatMap_cons, List.append_assoc]

theorem Obliging.of_reads {pipe last : Pipe} {outcomes : List ReadOutcome}
    (obliging : pipe.Obliging) (reads : Reads pipe outcomes last) : last.Obliging := by
  induction reads with
  | done pipe => exact obliging
  | next taken reads ih => exact ih (obliging.of_read taken)

theorem reads_suffix_of_reads {pipe last : Pipe} {outcomes : List ReadOutcome}
    (reads : Reads pipe outcomes last) : last.reads <:+ pipe.reads := by
  induction reads with
  | done pipe => exact List.suffix_refl pipe.reads
  | next taken reads ih =>
      obtain ⟨left, shorter, _, after⟩ := pipe_of_read taken
      rw [after] at ih
      exact ih.trans shorter

theorem fail_mem_of_read {pipe next : Pipe} {failure : IoFailure}
    (failed : ByteSource.read pipe = (.failed failure, next)) : .fail failure ∈ pipe.reads := by
  change pipe.read = (.failed failure, next) at failed
  unfold read at failed
  split at failed
  · cases failed
  · cases failed
  · next failing reads script =>
      cases failed
      simp [script]

end Pipe

namespace FrameReader

/-- The bytes that a reader has not yet made into frames: those in its buffer and
those in its pipe. -/
def unread (reader : FrameReader) (pipe : Pipe) : Bytes := reader.buffer ++ pipe.content

/-- What a call makes of the unread bytes, and what it leaves of them.  A failure
comes from the script of the pipe. -/
inductive Draws (unread : Bytes) (script : List PipeStep) :
    Attempt WireError (Option Frame) → Bytes → Prop where
  | frame {frame : Frame} {rest : Bytes} :
      frame.isConsistent = true →
      unread = frame.encode ++ rest →
      Draws unread script ⟨.ok (some frame), [frame.decodedEvent]⟩ rest
  | clean :
      unread = [] →
      Draws unread script ⟨.ok none, []⟩ []
  | cutOff :
      unread ≠ [] →
      Envelope.split? unread = none →
      Draws unread script
        ⟨.error .connectionClosed, [.streamEndedMidFrame unread.length]⟩ []
  | failed {failure : IoFailure} :
      .fail failure ∈ script →
      failure ≠ .interrupted →
      Draws unread script ⟨.error (.io failure), []⟩ unread

theorem draws_readFrame {pipe : Pipe} (obliging : pipe.Obliging) (reader : FrameReader) :
    (reader.readFrame pipe).source.Obliging ∧
      (reader.readFrame pipe).source.reads <:+ pipe.reads ∧
      Draws (reader.unread pipe) pipe.reads (reader.readFrame pipe).attempt
        ((reader.readFrame pipe).reader.unread (reader.readFrame pipe).source) := by
  obtain ⟨quiet, middle, reads, _, finishes⟩ := readFrame_gathers reader pipe
  have still := obliging.of_reads reads
  have shorter := Pipe.reads_suffix_of_reads reads
  have same : reader.unread pipe =
      (reader.gather (quiet.flatMap ReadOutcome.bytes)).unread middle := by
    simp [unread, Pipe.content_of_reads reads]
  -- Quiet reads only move bytes from the pipe to the buffer: what is unread stays the same,
  -- so the end of the call can be judged from the reader that has gathered them.
  rw [same]
  generalize reader.gather (quiet.flatMap ReadOutcome.bytes) = gathered at finishes
  generalize reader.readFrame pipe = call at finishes
  have later : ∀ {outcome : ReadOutcome} {next : Pipe},
      ByteSource.read middle = (outcome, next) → next.Obliging ∧ next.reads <:+ pipe.reads := by
    intro outcome next taken
    obtain ⟨left, fewer, _, after⟩ := Pipe.pipe_of_read taken
    refine ⟨still.of_read taken, ?_⟩
    rw [after]
    exact fewer.trans shorter
  cases finishes with
  | frame consistent content =>
      exact ⟨still, shorter, .frame consistent (by simp [unread, content])⟩
  | clean ended empty =>
      obtain ⟨before, after⟩ := Pipe.content_eq_nil_of_read still ended
      obtain ⟨nextObliging, nextShorter⟩ := later ended
      refine ⟨nextObliging, nextShorter, ?_⟩
      simp only [unread, empty, before, after, List.append_nil]
      exact .clean rfl
  | cutOff ended nonempty missing =>
      obtain ⟨before, after⟩ := Pipe.content_eq_nil_of_read still ended
      obtain ⟨nextObliging, nextShorter⟩ := later ended
      refine ⟨nextObliging, nextShorter, ?_⟩
      simp only [unread, before, after, List.append_nil]
      exact .cutOff nonempty missing
  | @failed failure next failed lasting =>
      obtain ⟨_, _, content, _⟩ := Pipe.pipe_of_read failed
      obtain ⟨nextObliging, nextShorter⟩ := later failed
      refine ⟨nextObliging, nextShorter, ?_⟩
      have left : gathered.unread middle = gathered.unread next := by
        rw [unread, content]
        rfl
      rw [← left]
      exact .failed (shorter.subset (Pipe.fail_mem_of_read failed)) lasting

end FrameReader

end RadioMesh
