import RadioMesh.Stream.ByteSource

/-!
# Pipes

A pipe keeps the bytes that were written into it until they are read, first in,
first out.  Scripts say how its next read, write and flush calls behave; a call
beyond its script moves as much as it can.
-/

namespace RadioMesh

/-- The behaviour of one call on a pipe: it moves at most so many bytes, or it
fails. -/
inductive PipeStep
  | limit (count : Nat)
  | fail (failure : IoFailure)
  deriving DecidableEq, Repr

/-- A pipe, the scripts of its next calls, and the number of flushes so far. -/
structure Pipe where
  content : Bytes
  reads : List PipeStep
  writes : List PipeStep
  flushes : List PipeStep
  flushed : Nat
  deriving DecidableEq, Repr

namespace Pipe

/-- A pipe that holds some bytes and has no scripts. -/
def ofBytes (content : Bytes) : Pipe := ⟨content, [], [], [], 0⟩

/-- The most bytes that a reader asks for at once. -/
def chunkSize : Nat := 512

def take (pipe : Pipe) (count : Nat) : ReadOutcome × Pipe :=
  (.delivered (pipe.content.take count), { pipe with content := pipe.content.drop count })

def read (pipe : Pipe) : ReadOutcome × Pipe :=
  match pipe.reads with
  | [] => pipe.take chunkSize
  | .limit count :: reads => take { pipe with reads := reads } (min chunkSize count)
  | .fail failure :: reads => (.failed failure, { pipe with reads := reads })

/-- One write call: how many of the offered bytes went into the pipe. -/
def write (pipe : Pipe) (offered : Bytes) : Except IoFailure Nat × Pipe :=
  match pipe.writes with
  | [] => (.ok offered.length, { pipe with content := pipe.content ++ offered })
  | .limit count :: writes =>
      (.ok (min count offered.length),
        { pipe with content := pipe.content ++ offered.take count, writes := writes })
  | .fail failure :: writes => (.error failure, { pipe with writes := writes })

def flush (pipe : Pipe) : Except IoFailure Unit × Pipe :=
  match pipe.flushes with
  | [] => (.ok (), { pipe with flushed := pipe.flushed + 1 })
  | .limit _ :: flushes =>
      (.ok (), { pipe with flushes := flushes, flushed := pipe.flushed + 1 })
  | .fail failure :: flushes => (.error failure, { pipe with flushes := flushes })

def feed (pipe : Pipe) (bytes : Bytes) : Pipe :=
  { pipe with content := pipe.content ++ bytes }

/-- A write call takes no more than it is offered and uses up no script twice. -/
theorem budget_write_ok {pipe next : Pipe} {offered : Bytes} {count : Nat}
    (outcome : pipe.write offered = (.ok count, next)) :
    count ≤ offered.length ∧ next.writes.length ≤ pipe.writes.length := by
  unfold write at outcome
  split at outcome
  · next same =>
      simp only [Prod.mk.injEq, Except.ok.injEq] at outcome
      obtain ⟨rfl, rfl⟩ := outcome
      simp
  · next limit writes same =>
      simp only [Prod.mk.injEq, Except.ok.injEq] at outcome
      obtain ⟨rfl, rfl⟩ := outcome
      simp only [same, List.length_cons]
      omega
  · cases outcome

/-- A write call that fails uses up a step of its script. -/
theorem budget_write_error {pipe next : Pipe} {offered : Bytes} {failure : IoFailure}
    (outcome : pipe.write offered = (.error failure, next)) :
    next.writes.length < pipe.writes.length := by
  unfold write at outcome
  split at outcome
  · cases outcome
  · cases outcome
  · next failed writes same =>
      simp only [Prod.mk.injEq] at outcome
      obtain ⟨_, rfl⟩ := outcome
      simp [same]

/-- A flush call that fails uses up a step of its script. -/
theorem budget_flush_error {pipe next : Pipe} {failure : IoFailure}
    (outcome : pipe.flush = (.error failure, next)) :
    next.flushes.length < pipe.flushes.length := by
  unfold flush at outcome
  split at outcome
  · cases outcome
  · cases outcome
  · next failed flushes same =>
      simp only [Prod.mk.injEq] at outcome
      obtain ⟨_, rfl⟩ := outcome
      simp [same]

/-- A read call moves bytes out of the pipe or uses up a failure of its script. -/
theorem budget_read (pipe : Pipe) :
    pipe.read.2.content.length + pipe.read.2.reads.length + pipe.read.1.cost ≤
      pipe.content.length + pipe.reads.length := by
  obtain ⟨content, reads, writes, flushes, flushed⟩ := pipe
  cases reads with
  | nil =>
      simp only [read, take, ReadOutcome.cost, List.length_drop, List.length_take]
      omega
  | cons step reads =>
      cases step with
      | limit count =>
          simp only [read, take, ReadOutcome.cost, List.length_drop, List.length_take,
            List.length_cons]
          omega
      | fail failure =>
          simp only [read, ReadOutcome.cost, List.length_cons]
          omega

instance : ByteSource Pipe where
  read := read
  budget pipe := pipe.content.length + pipe.reads.length
  budget_read := budget_read

end Pipe

end RadioMesh
