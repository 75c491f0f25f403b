import RadioMesh.Proofs.Stream.Reading

/-!
# Recorded sources

A reader knows of a source only what its read calls give, so it does the same with two sources
that give the same.  A recorded source gives what another source gives and keeps all outcomes.
It therefore shows which read calls a reader makes, without a change to what it does.
-/

namespace RadioMesh

section

variable {σ τ : Type}

def ReadResult.mapSource (change : σ → τ) (call : ReadResult σ) : ReadResult τ :=
  ⟨call.attempt, call.reader, change call.source⟩

def ReadStep.mapSource (change : σ → τ) : ReadStep σ → ReadStep τ
  | .finished call => .finished (call.mapSource change)
  | .gathered reader source => .gathered reader (change source)

def ReadRun.mapSource (change : σ → τ) (run : ReadRun σ) : ReadRun τ :=
  ⟨run.attempts, run.reader, change run.source⟩

/-- A change of sources that keeps the outcomes of their read calls. -/
def KeepsOutcomes [ByteSource σ] [ByteSource τ] (change : σ → τ) : Prop :=
  ∀ source : σ, ByteSource.read (change source) =
    ((ByteSource.read source).1, change (ByteSource.read source).2)

namespace FrameReader

variable [ByteSource σ] [ByteSource τ] {change : σ → τ}

theorem step_of_keepsOutcomes (keeps : KeepsOutcomes change) (reader : FrameReader)
    (source : σ) : reader.step (change source) = (reader.step source).mapSource change := by
  unfold step
  cases Envelope.split? reader.buffer with
  | some parts => rfl
  | none =>
      rw [keeps source]
      obtain ⟨outcome, next⟩ := ByteSource.read source
      match outcome with
      | .delivered [] => cases reader.buffer <;> rfl
      | .delivered (byte :: chunk) => rfl
      | .failed failure => cases failure <;> rfl

theorem readFrame_of_keepsOutcomes (keeps : KeepsOutcomes change) (reader : FrameReader)
    (source : σ) :
    reader.readFrame (change source) = (reader.readFrame source).mapSource change := by
  fun_induction readFrame reader source with
  | case1 reader source call outcome =>
      rw [readFrame_eq, step_of_keepsOutcomes keeps, outcome]
      rfl
  | case2 reader source later next outcome ih =>
      rw [readFrame_eq, step_of_keepsOutcomes keeps, outcome]
      exact ih

theorem calls_of_keepsOutcomes (keeps : KeepsOutcomes change) (reader : FrameReader)
    (source : σ) (count : Nat) :
    reader.calls (change source) count = (reader.calls source count).mapSource change := by
  induction count generalizing reader source with
  | zero => rfl
  | succ count ih =>
      simp only [calls, readFrame_of_keepsOutcomes keeps]
      rw [ReadResult.mapSource, ih]
      rfl

end FrameReader

end

/-- A source, with the outcomes of its read calls so far. -/
structure Recorded (σ : Type) where
  source : σ
  outcomes : List ReadOutcome

namespace Recorded

variable {σ : Type} [ByteSource σ]

/-- A source of which nothing has been read. -/
def start (source : σ) : Recorded σ := ⟨source, []⟩

instance : ByteSource (Recorded σ) where
  read recorded :=
    ((ByteSource.read recorded.source).1,
      ⟨(ByteSource.read recorded.source).2,
        recorded.outcomes ++ [(ByteSource.read recorded.source).1]⟩)
  budget recorded := ByteSource.budget recorded.source
  budget_read recorded := ByteSource.budget_read recorded.source

/-- Keeping the outcomes does not change them. -/
theorem keepsOutcomes_source : KeepsOutcomes (source : Recorded σ → σ) := fun _ => rfl

/-- The bytes that were taken from a source. -/
def taken (recorded : Recorded σ) : Bytes := recorded.outcomes.flatMap ReadOutcome.bytes

theorem taken_of_read {recorded next : Recorded σ} {outcome : ReadOutcome}
    (read : ByteSource.read recorded = (outcome, next)) :
    next.taken = recorded.taken ++ outcome.bytes := by
  cases read
  simp [taken]

theorem taken_of_reads {recorded last : Recorded σ} {outcomes : List ReadOutcome}
    (reads : Reads recorded outcomes last) :
    last.taken = recorded.taken ++ outcomes.flatMap ReadOutcome.bytes := by
  induction reads with
  | done recorded => simp
  | next read reads ih => rw [ih, taken_of_read read, List.flatMap_cons, List.append_assoc]

end Recorded

end RadioMesh
