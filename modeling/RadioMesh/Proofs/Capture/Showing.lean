import RadioMesh.Capture
import RadioMesh.Proofs.Stream.Obliging
import Mathlib.Data.List.Forall2

/-!
# Showing a capture

What is read of a capture is the frames of its whole envelopes and, if bytes are left
behind the last of them, an error.  A capture that was made of consistent frames is
shown frame by frame without a failure.
-/

namespace RadioMesh

namespace Capture

/-- What a reader gives of a stream: its frames, and an error for what is left. -/
def given (stream : Bytes) : List (Attempt WireError Frame) :=
  (Envelope.frames stream).map (fun frame => ⟨.ok frame, [frame.decodedEvent]⟩) ++
    if (Envelope.tail stream).isEmpty then []
    else [⟨.error .connectionClosed, [.streamEndedMidFrame (Envelope.tail stream).length]⟩]

@[simp] theorem given_nil : given [] = [] := by
  simp [given]

/-- One call gives the first of what a stream gives, if there is any, and leaves the
rest. -/
theorem given_of_draws {unread rest : Bytes} {call : ReadResult Pipe}
    (draws : FrameReader.Draws unread [] call.attempt rest) :
    given unread = call.item?.toList ++ given rest ∧ (call.item? = none → rest = []) := by
  obtain ⟨attempt, reader, source⟩ := call
  cases draws with
  | frame consistent content =>
      subst content
      simp [ReadResult.item?, given, Envelope.frames_encode_append consistent,
        Envelope.tail_encode_append consistent]
  | clean empty =>
      subst empty
      simp [ReadResult.item?]
  | cutOff nonempty missing =>
      simp [ReadResult.item?, given, Envelope.frames_of_split?_eq_none missing,
        Envelope.tail_of_split?_eq_none missing, nonempty]
  | failed scripted _ => cases scripted

/-- A reader over a pipe without a script gives what the unread bytes give. -/
theorem items_eq_given {pipe : Pipe} (obliging : pipe.Obliging) (unscripted : pipe.reads = [])
    (reader : FrameReader) : reader.items pipe = given (reader.unread pipe) := by
  fun_induction FrameReader.items reader pipe with
  | case1 reader pipe call nothing =>
      obtain ⟨_, _, draws⟩ := FrameReader.draws_readFrame obliging reader
      rw [unscripted] at draws
      obtain ⟨first, drained⟩ := given_of_draws draws
      rw [first, drained nothing, show (reader.readFrame pipe).item? = none from nothing]
      simp
  | case2 reader pipe call item found ih =>
      obtain ⟨still, shorter, draws⟩ := FrameReader.draws_readFrame obliging reader
      rw [unscripted] at shorter draws
      obtain ⟨first, _⟩ := given_of_draws draws
      rw [first, show (reader.readFrame pipe).item? = some item from found,
        ih still (List.suffix_nil.mp shorter)]
      rfl

theorem items_ofBytes (content : Bytes) :
    items (Pipe.ofBytes content) none = given content :=
  items_eq_given (Pipe.obliging_ofBytes content) rfl (FrameReader.fresh {})

theorem given_flatMap_encode {frames : List Frame}
    (consistent : ∀ frame ∈ frames, frame.isConsistent = true) :
    given (frames.flatMap Frame.encode) =
      frames.map fun frame => ⟨.ok frame, [frame.decodedEvent]⟩ := by
  simp [given, Envelope.frames_flatMap_encode consistent, Envelope.tail_flatMap_encode consistent]

/-- Frames that have views are shown one after the other, and then what follows them. -/
theorem showItems_append {asHub : Bool} {frames : List Frame} {views : List View}
    (each : List.Forall₂ (fun frame shown => ∀ index, view asHub index frame = .ok shown)
      frames views) (index : Nat) (rest : List (Attempt WireError Frame)) :
    let items := frames.map (fun frame => ⟨.ok frame, [frame.decodedEvent]⟩) ++ rest
    (showItems asHub index items).views =
        views ++ (showItems asHub (index + frames.length) rest).views ∧
      (showItems asHub index items).failure =
        (showItems asHub (index + frames.length) rest).failure := by
  induction each generalizing index with
  | nil => exact ⟨rfl, rfl⟩
  | @cons frame shown frames views head _ ih =>
      obtain ⟨later, failure⟩ := ih (index + 1)
      have next : index + (frames.length + 1) = index + 1 + frames.length := by omega
      simp only [List.map_cons, List.cons_append, showItems, head index,
        List.length_cons, next] at later failure ⊢
      rw [later, failure]
      exact ⟨rfl, rfl⟩

/-- A capture of consistent frames is shown whole. -/
theorem dump_of_consistent {directory : Directory} {path : String} {place : Place}
    {frames : List Frame} (named : path ≠ "-")
    (found : directory.locate path = .ok (.file place (frames.flatMap Frame.encode)))
    (consistent : ∀ frame ∈ frames, frame.isConsistent = true) (stdin : Bytes) :
    (dump directory stdin ⟨path, false, none⟩).views = frames.map View.frame ∧
      (dump directory stdin ⟨path, false, none⟩).failure = none := by
  have opened : source directory stdin ⟨path, false, none⟩ =
      .ok (Pipe.ofBytes (frames.flatMap Frame.encode)) := by
    simp [source, DumpRequest.fromStdin, named, Directory.openForReading, found]
  have each : List.Forall₂ (fun frame shown => ∀ index, view false index frame = .ok shown)
      frames (frames.map View.frame) := by
    rw [List.forall₂_map_right_iff]
    exact List.forall₂_same.mpr fun _ _ _ => rfl
  obtain ⟨views, failure⟩ := showItems_append each 0 []
  simp only [List.append_nil, showItems] at views failure
  simp only [dump, opened, items_ofBytes, given_flatMap_encode consistent]
  exact ⟨views, failure⟩

end Capture

end RadioMesh
