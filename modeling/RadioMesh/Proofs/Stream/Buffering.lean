import RadioMesh.Proofs.Stream.Recording
import RadioMesh.Stream.Pipe

/-!
# The buffer of a frame reader

A frame reader makes a read call exactly if its buffer does not start with a whole envelope.
Such a buffer holds at most 258 bytes, one fewer than the longest envelope, and a read call
adds at most as many as a reader asks for at once.  This bounds the buffer at every point of
every run, and it shows that a call that finds a whole envelope leaves its source alone.
-/

namespace RadioMesh

theorem Envelope.length_of_split?_eq_none {stream : Bytes} (missing : split? stream = none) :
    stream.length ≤ 258 := by
  unfold split? at missing
  split at missing
  · next opcode low high declared data =>
      split at missing
      · cases missing
      · next lacking =>
          have bound := declared.toNat_lt
          simp only [List.length_cons]
          omega
  · next short =>
      match stream, short with
      | [], _ => simp
      | [_], _ => simp
      | [_, _], _ => simp
      | [_, _, _], _ => simp
      | opcode :: low :: high :: declared :: data, other =>
          exact absurd rfl (other opcode low high declared data)

section

variable {σ : Type} [ByteSource σ]

/-- A source of which no read call delivers more than a reader asks for at once. -/
def IsModest (source : σ) : Prop :=
  ∀ outcomes last, Reads source outcomes last →
    ∀ outcome ∈ outcomes, outcome.bytes.length ≤ Pipe.chunkSize

theorem IsModest.length_read_le {source : σ} (modest : IsModest source) :
    (ByteSource.read source).1.bytes.length ≤ Pipe.chunkSize :=
  modest [_] _ (.next rfl (.done _)) _ List.mem_cons_self

theorem IsModest.read {source : σ} (modest : IsModest source) :
    IsModest (ByteSource.read source).2 := by
  intro outcomes last reads outcome member
  exact modest (_ :: outcomes) last (.next rfl reads) outcome (List.mem_cons_of_mem _ member)

theorem isModest_of_forall_mem {outcomes : List ReadOutcome}
    (small : ∀ outcome ∈ outcomes, outcome.bytes.length ≤ Pipe.chunkSize) :
    IsModest outcomes := by
  intro taken last reads
  induction reads with
  | done outcomes => simp
  | @next outcomes later last outcome taken read reads ih =>
      intro other member
      cases outcomes with
      | nil =>
          cases read
          rcases List.mem_cons.mp member with rfl | behind
          · exact Nat.zero_le _
          · exact ih small other behind
      | cons first rest =>
          cases read
          rcases List.mem_cons.mp member with rfl | behind
          · exact small _ List.mem_cons_self
          · exact ih (fun next here => small next (List.mem_cons_of_mem _ here)) other behind

namespace FrameReader

/-- What every step keeps: a buffer that is no longer than the start of an envelope and one
read call, and a modest source. -/
structure Bounded (reader : FrameReader) (source : σ) : Prop where
  short : reader.buffer.length ≤ 770
  modest : IsModest source

theorem bounded_step (reader : FrameReader) (source : σ) (bounded : Bounded reader source) :
    Bounded (reader.step source).reader (reader.step source).source := by
  cases found : Envelope.split? reader.buffer with
  | some parts =>
      obtain ⟨envelope, rest⟩ := parts
      obtain ⟨reading, untouched⟩ := step_of_split?_eq_some found source
      have shorter := Envelope.length_of_split?_eq_some found
      rw [reading, untouched]
      refine ⟨?_, bounded.modest⟩
      exact Nat.le_trans (Nat.le_of_add_right_le shorter) bounded.short
  | none =>
      obtain ⟨reading, next⟩ := step_of_split?_eq_none found source
      have unfinished := Envelope.length_of_split?_eq_none found
      have added := bounded.modest.length_read_le
      rw [next]
      refine ⟨?_, bounded.modest.read⟩
      rcases reading with gathered | cleared
      · rw [gathered, buffer_gather, List.length_append]
        rw [Pipe.chunkSize] at added
        omega
      · rw [cleared]
        exact Nat.zero_le _

/-- The outcomes of the read calls that a step makes. -/
def readsOfStep (reader : FrameReader) (source : σ) : List ReadOutcome :=
  (reader.step (Recorded.start source)).source.outcomes

/-- The outcomes of the read calls that a call makes. -/
def readsOfCall (reader : FrameReader) (source : σ) : List ReadOutcome :=
  (reader.readFrame (Recorded.start source)).source.outcomes

/-- A whole envelope at the front of the buffer ends the call at once, with its frame. -/
theorem readFrame_of_isWhole {reader : FrameReader} {envelope rest : Bytes}
    (whole : Envelope.IsWhole envelope) (content : reader.buffer = envelope ++ rest)
    (source : σ) :
    ∃ frame : Frame, frame.encode = envelope ∧
      reader.readFrame source =
        ⟨⟨.ok (some frame), [frame.decodedEvent]⟩, { reader with buffer := rest }, source⟩ := by
  obtain ⟨frame, consistent, rfl⟩ := Frame.exists_encode_eq_of_isWhole whole
  refine ⟨frame, rfl, ?_⟩
  rw [readFrame_eq, step, content, Envelope.split?_encode_append consistent]
  simp only [Frame.decode_encode_of_isConsistent consistent]
  rfl

theorem readsOfStep_ne_nil_iff {reader : FrameReader} (source : σ) :
    reader.readsOfStep source ≠ [] ↔ Envelope.split? reader.buffer = none := by
  cases found : Envelope.split? reader.buffer with
  | some parts =>
      have nothing : reader.readsOfStep source = [] := by
        rw [readsOfStep, (step_of_split?_eq_some found _).2]
        rfl
      simp [nothing]
  | none =>
      have single : reader.readsOfStep source = [(ByteSource.read source).1] := by
        rw [readsOfStep, (step_of_split?_eq_none found _).2]
        rfl
      simp [single]

/-- The buffer of a fresh reader holds at most 770 bytes at every point of every run: after any
number of calls and after any number of steps of the next one.  A step makes a read call
exactly if the buffer does not start with a whole envelope, and then it holds at most 258
bytes.  A call that finds a whole envelope in the buffer gives its frame without a read
call. -/
theorem buffer_stays_small {source : σ} (modest : IsModest source) (config : StreamConfig)
    (count fuel : Nat) :
    let run := (fresh config).calls source count
    let point := run.reader.steps run.source fuel
    point.reader.buffer.length ≤ 770 ∧
    (point.reader.readsOfStep point.source ≠ [] ↔
      ∀ start, start <+: point.reader.buffer → ¬Envelope.IsWhole start) ∧
    (point.reader.readsOfStep point.source ≠ [] → point.reader.buffer.length ≤ 258) ∧
    ∀ envelope rest, Envelope.IsWhole envelope → run.reader.buffer = envelope ++ rest →
      run.reader.readsOfCall run.source = [] ∧
        ∃ frame : Frame, frame.encode = envelope ∧
          (run.reader.readFrame run.source).attempt.result = .ok (some frame) ∧
          (run.reader.readFrame run.source).reader.buffer = rest := by
  intro run point
  have first : Bounded (fresh config) source := ⟨Nat.zero_le _, modest⟩
  have bounded := holds_steps bounded_step (holds_calls bounded_step first count) fuel
  refine ⟨bounded.short, ?_, ?_, ?_⟩
  · rw [← Envelope.split?_eq_none_iff]
    exact readsOfStep_ne_nil_iff point.source
  · intro reading
    exact Envelope.length_of_split?_eq_none ((readsOfStep_ne_nil_iff point.source).mp reading)
  · intro envelope rest whole content
    constructor
    · obtain ⟨frame, _, same⟩ := readFrame_of_isWhole whole content (Recorded.start run.source)
      rw [readsOfCall, same]
      rfl
    · obtain ⟨frame, encoded, same⟩ := readFrame_of_isWhole whole content run.source
      rw [same]
      exact ⟨frame, encoded, rfl, rfl⟩

/-- Two envelopes and the start of a third in one chunk: the second call finds the second
envelope, and the third call reads on where the third envelope starts. -/
theorem buffer_stays_small_of_three_envelopes :
    let outcomes : List ReadOutcome :=
      [.delivered [1, 0, 0, 1, 7, 2, 0, 0, 0, 3], .failed .interrupted, .delivered [0, 0, 0]]
    let second := (fresh ⟨.strict, 0⟩).calls outcomes 1
    let third := (fresh ⟨.strict, 0⟩).calls outcomes 2
    IsModest outcomes ∧
      second.reader.buffer = [2, 0, 0, 0] ++ [3] ∧
      second.reader.readsOfCall second.source = [] ∧
      third.reader.readsOfStep third.source ≠ [] ∧
      third.reader.buffer.length ≤ 258 := by
  intro outcomes second third
  have modest : IsModest outcomes := isModest_of_forall_mem (by decide)
  have content : second.reader.buffer = [2, 0, 0, 0] ++ [3] := by cbv
  have whole : Envelope.IsWhole [2, 0, 0, 0] := ⟨0, rfl, rfl⟩
  have started : third.reader.buffer = [3] := by cbv
  obtain ⟨_, _, _, found⟩ := buffer_stays_small modest ⟨.strict, 0⟩ 1 0
  obtain ⟨_, _, few, _⟩ := buffer_stays_small modest ⟨.strict, 0⟩ 2 0
  have reading : third.reader.readsOfStep third.source ≠ [] := by
    apply (readsOfStep_ne_nil_iff third.source).mpr
    rw [started]
    rfl
  exact ⟨modest, content, (found _ _ whole content).1, reading, few reading⟩

end FrameReader

end

end RadioMesh
