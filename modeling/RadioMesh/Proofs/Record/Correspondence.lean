import RadioMesh.WireError
import RadioMesh.Bytes
import Mathlib.Data.Set.Function

/-!
# Values and their byte strings

Some values and some byte strings correspond if writing takes the values one to one to the
byte strings and reading takes each of these byte strings back, and reads no other.
-/

namespace RadioMesh

/-- Reading undoes writing between some values and some byte strings, and reads nothing
else. -/
structure Corresponds {α : Type} (decode : Bytes → Except WireError α) (encode : α → Bytes)
    (values : Set α) (wires : Set Bytes) : Prop where
  /-- Each of the byte strings is what exactly one of the values is written as. -/
  bijective : Set.BijOn encode values wires
  /-- A byte string is read as the value that is written as it. -/
  inverse : ∀ wire value, decode wire = .ok value ↔ value ∈ values ∧ encode value = wire

/-- What is read back to the value from which it was written is written from no other. -/
theorem corresponds_of_eq_ok_iff {α : Type} {decode : Bytes → Except WireError α}
    {encode : α → Bytes} {values : Set α} {wires : Set Bytes}
    (inverse : ∀ wire value, decode wire = .ok value ↔ value ∈ values ∧ encode value = wire)
    (written : ∀ wire, wire ∈ wires ↔ ∃ value ∈ values, encode value = wire) :
    Corresponds decode encode values wires := by
  refine ⟨⟨?_, ?_, ?_⟩, inverse⟩
  · intro value member
    exact (written _).mpr ⟨value, member, rfl⟩
  · intro value member other otherMember same
    have decoded := (inverse _ _).mpr ⟨member, rfl⟩
    rw [same, (inverse _ _).mpr ⟨otherMember, rfl⟩] at decoded
    cases decoded
    rfl
  · intro wire member
    exact (written wire).mp member

end RadioMesh
