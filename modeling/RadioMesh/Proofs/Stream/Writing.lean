import RadioMesh.Proofs.Stream.Obliging
import RadioMesh.Stream.FrameWriter

/-!
# Writing into an obliging pipe

A writer puts every frame that it does not reject into an obliging pipe as a whole,
and of the others nothing.
-/

namespace RadioMesh

namespace Pipe

/-- Writing into an obliging pipe ends only when no bytes are left. -/
theorem nil_of_writeStep_finished {bytes : Bytes} {pipe : Pipe} {call : WriteResult}
    (obliging : pipe.Obliging) (outcome : pipe.writeStep bytes = .finished call) :
    bytes = [] ∧ call = ⟨.ok (), pipe⟩ := by
  unfold writeStep at outcome
  split at outcome
  · next empty =>
      cases outcome
      exact ⟨by simpa using empty, rfl⟩
  · next more =>
      split at outcome
      · next written =>
          exact absurd written (write_ne_ok_zero obliging (by simpa using more))
      · cases outcome
      · next failure next failed =>
          obtain ⟨writes, script, _⟩ := pipe_of_write_error failed
          rw [if_pos (obliging.retries failure (.inl (by simp [script])))] at outcome
          cases outcome

/-- A step that leaves bytes has put those before them into the pipe. -/
theorem pipe_of_writeStep_remaining {bytes later : Bytes} {pipe next : Pipe}
    (outcome : pipe.writeStep bytes = .remaining later next) :
    ∃ taken writes, bytes = taken ++ later ∧ writes <:+ pipe.writes ∧
      next = { pipe with content := pipe.content ++ taken, writes := writes } := by
  unfold writeStep at outcome
  split at outcome
  · cases outcome
  · split at outcome
    · cases outcome
    · next count rest written =>
        cases outcome
        obtain ⟨writes, shorter, after⟩ := pipe_of_write_ok written
        exact ⟨_, writes, (List.take_append_drop _ bytes).symm, shorter, after⟩
    · next failure rest failed =>
        split at outcome
        · cases outcome
          obtain ⟨writes, script, after⟩ := pipe_of_write_error failed
          refine ⟨[], writes, rfl, ?_, by simpa using after⟩
          rw [script]
          exact List.suffix_cons _ writes
        · cases outcome

theorem writeAll_of_obliging {pipe : Pipe} (obliging : pipe.Obliging) (bytes : Bytes) :
    ∃ writes, writes <:+ pipe.writes ∧
      pipe.writeAll bytes =
        ⟨.ok (), { pipe with content := pipe.content ++ bytes, writes := writes }⟩ := by
  fun_induction writeAll bytes pipe with
  | case1 bytes pipe call outcome =>
      obtain ⟨rfl, rfl⟩ := nil_of_writeStep_finished obliging outcome
      exact ⟨pipe.writes, List.suffix_refl _, by simp⟩
  | case2 bytes pipe later next outcome ih =>
      obtain ⟨taken, writes, rfl, shorter, rfl⟩ := pipe_of_writeStep_remaining outcome
      obtain ⟨left, fewer, written⟩ :=
        ih (obliging.of_suffix (List.suffix_refl _) shorter (List.suffix_refl _))
      exact ⟨left, fewer.trans shorter, by simpa using written⟩

theorem flushAll_of_obliging {pipe : Pipe} (obliging : pipe.Obliging) :
    ∃ flushes, flushes <:+ pipe.flushes ∧
      pipe.flushAll =
        ⟨.ok (), { pipe with flushes := flushes, flushed := pipe.flushed + 1 }⟩ := by
  fun_induction flushAll pipe with
  | case1 pipe next flushed =>
      obtain ⟨flushes, shorter, rfl⟩ := pipe_of_flush_ok flushed
      exact ⟨flushes, shorter, rfl⟩
  | case2 pipe failure next failed passing ih =>
      obtain ⟨flushes, script, rfl⟩ := pipe_of_flush_error failed
      have shorter : flushes <:+ pipe.flushes := by
        rw [script]
        exact List.suffix_cons _ flushes
      obtain ⟨left, fewer, flushed⟩ :=
        ih (obliging.of_suffix (List.suffix_refl _) (List.suffix_refl _) shorter)
      exact ⟨left, fewer.trans shorter, flushed⟩
  | case3 pipe failure next failed lasting =>
      obtain ⟨flushes, script, _⟩ := pipe_of_flush_error failed
      exact absurd (obliging.retries failure (.inr (by simp [script]))) lasting

end Pipe

namespace WireError

/-- An error with which a writer refuses a frame before it writes any of it. -/
def isRejection : WireError → Bool
  | payloadTooLarge .. => true
  | malformed _ => true
  | _ => false

end WireError

namespace FrameWriter

theorem isRejection_of_rejection?_eq_some {writer : FrameWriter} {frame : Frame}
    {error : WireError} (rejected : writer.rejection? frame = some error) :
    error.isRejection = true := by
  unfold rejection? at rejected
  split at rejected
  · cases rejected
    rfl
  · split at rejected
    · cases rejected
      rfl
    · cases rejected

theorem rejection?_eq_none_iff {writer : FrameWriter} {frame : Frame} :
    writer.rejection? frame = none ↔
      frame.data.length ≤ writer.config.maxDataSize ∧ frame.isConsistent = true := by
  unfold rejection?
  by_cases large : writer.config.maxDataSize < frame.data.length
  · simp [large, Nat.not_le.mpr large]
  · cases consistent : frame.isConsistent <;> simp [large, Nat.not_lt.mp large]

theorem writeFrame_of_rejection? {writer : FrameWriter} {frame : Frame} {error : WireError}
    (rejected : writer.rejection? frame = some error) (pipe : Pipe) :
    writer.writeFrame frame pipe = ⟨.error error, pipe⟩ := by
  simp [writeFrame, rejected]

/-- A frame that is not rejected goes into an obliging pipe as a whole. -/
theorem writeFrame_of_obliging {writer : FrameWriter} {frame : Frame} {pipe : Pipe}
    (obliging : pipe.Obliging) (unrejected : writer.rejection? frame = none) :
    ∃ next, writer.writeFrame frame pipe = ⟨.ok (), next⟩ ∧ next.Obliging ∧
      next.content = pipe.content ++ frame.encode := by
  obtain ⟨writes, fewerWrites, written⟩ := Pipe.writeAll_of_obliging obliging frame.encode
  have still :
      { pipe with content := pipe.content ++ frame.encode, writes := writes : Pipe }.Obliging :=
    obliging.of_suffix (List.suffix_refl _) fewerWrites (List.suffix_refl _)
  obtain ⟨flushes, fewerFlushes, flushed⟩ := Pipe.flushAll_of_obliging still
  have whole : writer.writeFrame frame pipe =
      ⟨.ok (), { pipe with
        content := pipe.content ++ frame.encode
        writes := writes
        flushes := flushes
        flushed := pipe.flushed + 1 }⟩ := by
    simp only [writeFrame, unrejected, written, flushed]
  exact ⟨_, whole, obliging.of_suffix (List.suffix_refl _) fewerWrites fewerFlushes, rfl⟩

end FrameWriter

end RadioMesh
