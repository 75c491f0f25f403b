import RadioMesh.Bytes
import RadioMesh.IoFailure

/-!
# Sources of bytes

A source answers each read call with some bytes, with no bytes at its end, or
with a failure.  It also bounds the work that is left in it: every byte that it
delivers and every failure costs one unit of its budget, so whoever keeps
reading reaches an end.
-/

namespace RadioMesh

/-- What one read call gives.  No bytes mean that the stream has ended. -/
inductive ReadOutcome
  | delivered (chunk : Bytes)
  | failed (failure : IoFailure)
  deriving DecidableEq, Repr

/-- What a read call takes from the budget of its source. -/
def ReadOutcome.cost : ReadOutcome → Nat
  | .delivered chunk => chunk.length
  | .failed _ => 1

/-- A type of sources of bytes. -/
class ByteSource (σ : Type) where
  /-- One read call, and the source after it. -/
  read : σ → ReadOutcome × σ
  /-- A bound on the bytes and failures that are left. -/
  budget : σ → Nat
  /-- A read call pays for its outcome. -/
  budget_read : ∀ source : σ,
    budget (read source).2 + (read source).1.cost ≤ budget source

namespace ReadOutcome

/-- The first of some outcomes, and the others.  After the last the stream has
ended. -/
def next : List ReadOutcome → ReadOutcome × List ReadOutcome
  | [] => (.delivered [], [])
  | outcome :: rest => (outcome, rest)

/-- What some outcomes cost together. -/
def totalCost : List ReadOutcome → Nat
  | [] => 0
  | outcome :: rest => outcome.cost + totalCost rest

theorem totalCost_next (outcomes : List ReadOutcome) :
    totalCost (next outcomes).2 + (next outcomes).1.cost ≤ totalCost outcomes := by
  cases outcomes with
  | nil => exact Nat.le_refl 0
  | cons outcome rest => exact Nat.le_of_eq (Nat.add_comm (totalCost rest) outcome.cost)

end ReadOutcome

/-- A list of outcomes is a source that gives them in turn and then has ended. -/
instance : ByteSource (List ReadOutcome) where
  read := ReadOutcome.next
  budget := ReadOutcome.totalCost
  budget_read := ReadOutcome.totalCost_next

end RadioMesh
