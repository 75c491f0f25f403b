import RadioMesh.Record.Frame
import RadioMesh.Stream.Envelope

/-!
# The cutting of a stream

A whole envelope is a byte string whose fourth byte counts the bytes after it.
A stream falls apart in exactly one way into whole envelopes and a tail that does
not start with one, and `Envelope.cut` finds these parts.  Whole envelopes are
exactly the encodings of consistent frames, so the cutting of a stream is also a
list of frames.
-/

namespace RadioMesh

namespace Envelope

/-- A whole envelope: the fourth byte counts the bytes after it. -/
def IsWhole (bytes : Bytes) : Prop :=
  ∃ declared, bytes[3]? = some declared ∧ bytes.length = 4 + declared.toNat

/-- A stream taken apart into whole envelopes and a tail that does not start with
one. -/
structure Cutting (stream : Bytes) (envelopes : List Bytes) (tail : Bytes) : Prop where
  joined : envelopes.flatten ++ tail = stream
  whole : ∀ envelope ∈ envelopes, IsWhole envelope
  unfinished : ∀ start, start <+: tail → ¬IsWhole start

theorem isWhole_iff {bytes : Bytes} :
    IsWhole bytes ↔ ∃ opcode low high declared data,
      bytes = opcode :: low :: high :: declared :: data ∧ data.length = declared.toNat := by
  constructor
  · rintro ⟨declared, fourth, size⟩
    match bytes with
    | opcode :: low :: high :: counted :: data =>
        obtain rfl : counted = declared := by simpa using fourth
        refine ⟨opcode, low, high, counted, data, rfl, ?_⟩
        simp only [List.length_cons] at size
        omega
    | [] => simp at fourth
    | [_] => simp at fourth
    | [_, _] => simp at fourth
    | [_, _, _] => simp at fourth
  · rintro ⟨opcode, low, high, declared, data, rfl, size⟩
    refine ⟨declared, rfl, ?_⟩
    simp only [List.length_cons]
    omega

theorem split?_eq_some_iff {stream envelope rest : Bytes} :
    split? stream = some (envelope, rest) ↔ IsWhole envelope ∧ envelope ++ rest = stream := by
  constructor
  · intro found
    refine ⟨?_, (split?_eq_some found).1.symm⟩
    unfold split? at found
    split at found
    · next opcode low high declared data =>
        split at found
        · next enough =>
            simp only [Option.some.injEq, Prod.mk.injEq] at found
            obtain ⟨rfl, rfl⟩ := found
            refine isWhole_iff.mpr ⟨opcode, low, high, declared, _, rfl, ?_⟩
            rw [List.length_take]
            omega
        · cases found
    · cases found
  · rintro ⟨whole, rfl⟩
    obtain ⟨opcode, low, high, declared, data, rfl, size⟩ := isWhole_iff.mp whole
    simp [split?, ← size]

theorem split?_eq_none_iff {stream : Bytes} :
    split? stream = none ↔ ∀ start, start <+: stream → ¬IsWhole start := by
  constructor
  · rintro missing start ⟨rest, rfl⟩ whole
    rw [split?_eq_some_iff.mpr ⟨whole, rfl⟩] at missing
    cases missing
  · intro unfinished
    cases found : split? stream with
    | none => rfl
    | some parts =>
        obtain ⟨whole, joined⟩ := split?_eq_some_iff.mp found
        exact absurd whole (unfinished parts.1 ⟨parts.2, joined⟩)

theorem cut_of_split?_eq_some {stream envelope rest : Bytes}
    (found : split? stream = some (envelope, rest)) :
    cut stream = (envelope :: (cut rest).1, (cut rest).2) := by
  rw [cut]
  split
  · next first later same =>
      rw [found] at same
      cases same
      rfl
  · next missing =>
      rw [found] at missing
      cases missing

theorem cut_of_split?_eq_none {stream : Bytes} (missing : split? stream = none) :
    cut stream = ([], stream) := by
  rw [cut]
  split
  · next found =>
      rw [missing] at found
      cases found
  · rfl

theorem cutting_cut (stream : Bytes) : Cutting stream (cut stream).1 (cut stream).2 := by
  fun_induction cut stream with
  | case1 stream envelope rest found envelopes tail equation ih =>
      obtain ⟨whole, joined⟩ := split?_eq_some_iff.mp found
      rw [equation] at ih
      refine ⟨?_, ?_, ih.unfinished⟩
      · rw [List.flatten_cons, List.append_assoc, ih.joined, joined]
      · intro part member
        rcases List.mem_cons.mp member with rfl | later
        · exact whole
        · exact ih.whole part later
  | case2 stream missing =>
      refine ⟨rfl, ?_, split?_eq_none_iff.mp missing⟩
      intro part member
      cases member

/-- A stream has one cutting only. -/
theorem cutting_iff {stream : Bytes} {envelopes : List Bytes} {tail : Bytes} :
    Cutting stream envelopes tail ↔ cut stream = (envelopes, tail) := by
  constructor
  · intro cutting
    induction envelopes generalizing stream with
    | nil =>
        obtain rfl : tail = stream := cutting.joined
        exact cut_of_split?_eq_none (split?_eq_none_iff.mpr cutting.unfinished)
    | cons envelope envelopes ih =>
        have first : split? stream = some (envelope, envelopes.flatten ++ tail) := by
          refine split?_eq_some_iff.mpr ⟨cutting.whole envelope List.mem_cons_self, ?_⟩
          rw [← cutting.joined, List.flatten_cons, List.append_assoc]
        have rest : Cutting (envelopes.flatten ++ tail) envelopes tail :=
          ⟨rfl, fun part member => cutting.whole part (List.mem_cons_of_mem envelope member),
            cutting.unfinished⟩
        rw [cut_of_split?_eq_some first, ih rest]
  · intro parts
    have cutting := cutting_cut stream
    rwa [parts] at cutting

end Envelope

namespace Frame

def ofEnvelope? : Bytes → Option Frame
  | opcode :: low :: high :: declared :: data =>
      some ⟨opcode, Word16.ofBytes low high, declared, data⟩
  | _ => none

theorem ofEnvelope?_eq_some_iff {bytes : Bytes} {frame : Frame} :
    ofEnvelope? bytes = some frame ↔ frame.encode = bytes := by
  constructor
  · intro found
    unfold ofEnvelope? at found
    split at found
    · cases found
      simp [encode]
    · cases found
  · rintro rfl
    simp [ofEnvelope?, encode]

@[simp] theorem ofEnvelope?_encode (frame : Frame) : ofEnvelope? frame.encode = some frame :=
  ofEnvelope?_eq_some_iff.mpr rfl

theorem isWhole_encode_iff {frame : Frame} :
    Envelope.IsWhole frame.encode ↔ frame.isConsistent = true := by
  simp only [Envelope.IsWhole, encode, isConsistent, beq_iff_eq]
  constructor
  · rintro ⟨declared, fourth, size⟩
    obtain rfl : frame.dataLength = declared := by simpa using fourth
    simp only [List.length_cons] at size
    omega
  · intro consistent
    refine ⟨frame.dataLength, rfl, ?_⟩
    simp only [List.length_cons]
    omega

theorem exists_encode_eq_of_isWhole {envelope : Bytes} (whole : Envelope.IsWhole envelope) :
    ∃ frame : Frame, frame.isConsistent = true ∧ frame.encode = envelope := by
  obtain ⟨opcode, low, high, declared, data, rfl, _⟩ := Envelope.isWhole_iff.mp whole
  have encoded : encode ⟨opcode, Word16.ofBytes low high, declared, data⟩ =
      opcode :: low :: high :: declared :: data := by
    simp [encode]
  refine ⟨_, isWhole_encode_iff.mp ?_, encoded⟩
  rwa [encoded]

/-- Decoding a whole envelope gives its frame under either policy, without a
warning. -/
theorem decode_encode_of_isConsistent {frame : Frame} (consistent : frame.isConsistent = true)
    (policy : LengthPolicy) :
    decode policy frame.encode = ⟨.ok frame, [frame.decodedEvent]⟩ := by
  have same : frame.dataLength.toNat = frame.data.length := by
    simpa [isConsistent] using consistent
  simp [decode, encode, LengthPolicy.check, same]

end Frame

namespace Envelope

/-- The frames of the whole envelopes at the front of a stream. -/
def frames (stream : Bytes) : List Frame := (cut stream).1.filterMap Frame.ofEnvelope?

/-- What follows the last whole envelope of a stream. -/
def tail (stream : Bytes) : Bytes := (cut stream).2

theorem split?_encode_append {frame : Frame} (consistent : frame.isConsistent = true)
    (rest : Bytes) : split? (frame.encode ++ rest) = some (frame.encode, rest) :=
  split?_eq_some_iff.mpr ⟨Frame.isWhole_encode_iff.mpr consistent, rfl⟩

theorem exists_frame_of_split?_eq_some {stream envelope rest : Bytes}
    (found : split? stream = some (envelope, rest)) :
    ∃ frame : Frame, frame.isConsistent = true ∧ frame.encode = envelope ∧
      stream = frame.encode ++ rest := by
  obtain ⟨whole, rfl⟩ := split?_eq_some_iff.mp found
  obtain ⟨frame, consistent, rfl⟩ := Frame.exists_encode_eq_of_isWhole whole
  exact ⟨frame, consistent, rfl, rfl⟩

theorem frames_encode_append {frame : Frame} (consistent : frame.isConsistent = true)
    (rest : Bytes) : frames (frame.encode ++ rest) = frame :: frames rest := by
  simp [frames, cut_of_split?_eq_some (split?_encode_append consistent rest)]

theorem tail_encode_append {frame : Frame} (consistent : frame.isConsistent = true)
    (rest : Bytes) : tail (frame.encode ++ rest) = tail rest := by
  simp [tail, cut_of_split?_eq_some (split?_encode_append consistent rest)]

theorem frames_of_split?_eq_none {stream : Bytes} (missing : split? stream = none) :
    frames stream = [] := by
  simp [frames, cut_of_split?_eq_none missing]

theorem tail_of_split?_eq_none {stream : Bytes} (missing : split? stream = none) :
    tail stream = stream := by
  simp [tail, cut_of_split?_eq_none missing]

@[simp] theorem frames_nil : frames [] = [] := frames_of_split?_eq_none rfl

@[simp] theorem tail_nil : tail [] = [] := tail_of_split?_eq_none rfl

theorem frames_flatMap_encode {frames : List Frame}
    (consistent : ∀ frame ∈ frames, frame.isConsistent = true) :
    Envelope.frames (frames.flatMap Frame.encode) = frames := by
  induction frames with
  | nil => exact frames_nil
  | cons frame frames ih =>
      rw [List.flatMap_cons, frames_encode_append (consistent frame List.mem_cons_self),
        ih fun other member => consistent other (List.mem_cons_of_mem _ member)]

theorem tail_flatMap_encode {frames : List Frame}
    (consistent : ∀ frame ∈ frames, frame.isConsistent = true) :
    tail (frames.flatMap Frame.encode) = [] := by
  induction frames with
  | nil => exact tail_nil
  | cons frame frames ih =>
      rw [List.flatMap_cons, tail_encode_append (consistent frame List.mem_cons_self),
        ih fun other member => consistent other (List.mem_cons_of_mem _ member)]

/-- Only the first of some frames can be at the front of the stream that they make. -/
theorem eq_cons_of_flatMap_encode_eq {frame : Frame} {frames : List Frame} {rest : Bytes}
    (consistent : frame.isConsistent = true)
    (allConsistent : ∀ other ∈ frames, other.isConsistent = true)
    (same : frames.flatMap Frame.encode = frame.encode ++ rest) :
    ∃ later, frames = frame :: later ∧ rest = later.flatMap Frame.encode := by
  have cut := congrArg Envelope.frames same
  rw [frames_flatMap_encode allConsistent, frames_encode_append consistent] at cut
  rw [cut, List.flatMap_cons] at same
  exact ⟨Envelope.frames rest, cut, (List.append_cancel_left same).symm⟩

/-- The frames of a stream are consistent and travel as its whole envelopes. -/
theorem map_encode_frames_of_cutting {stream : Bytes} {envelopes : List Bytes} {tail : Bytes}
    (cutting : Cutting stream envelopes tail) :
    (frames stream).map Frame.encode = envelopes ∧
      ∀ frame ∈ frames stream, frame.isConsistent = true := by
  simp only [frames, cutting_iff.mp cutting]
  have whole := cutting.whole
  clear cutting
  induction envelopes with
  | nil => simp
  | cons envelope envelopes ih =>
      obtain ⟨frame, consistent, rfl⟩ :=
        Frame.exists_encode_eq_of_isWhole (whole envelope List.mem_cons_self)
      obtain ⟨encoded, later⟩ := ih fun part member => whole part (List.mem_cons_of_mem _ member)
      simpa [encoded, consistent] using later

end Envelope

end RadioMesh
