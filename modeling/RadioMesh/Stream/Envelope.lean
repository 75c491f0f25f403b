import RadioMesh.Bytes

/-!
# Envelopes in a byte stream

In a stream, a frame ends where its declared length says, so the stream falls
into envelopes one after the other.  Cutting takes as many whole envelopes as
there are from the front and leaves a tail that holds none.
-/

namespace RadioMesh.Envelope

/-- The first whole envelope of a stream, and what follows it. -/
def split? : Bytes → Option (Bytes × Bytes)
  | opcode :: low :: high :: declared :: data =>
      if declared.toNat ≤ data.length then
        some (opcode :: low :: high :: declared :: data.take declared.toNat,
          data.drop declared.toNat)
      else none
  | _ => none

theorem split?_eq_some {stream envelope rest : Bytes}
    (found : split? stream = some (envelope, rest)) :
    stream = envelope ++ rest ∧ 4 ≤ envelope.length := by
  unfold split? at found
  split at found
  · next opcode low high declared data =>
      split at found
      · simp only [Option.some.injEq, Prod.mk.injEq] at found
        obtain ⟨rfl, rfl⟩ := found
        constructor
        · simp [List.take_append_drop]
        · simp only [List.length_cons]
          omega
      · cases found
  · cases found

theorem length_of_split?_eq_some {stream envelope rest : Bytes}
    (found : split? stream = some (envelope, rest)) :
    rest.length + 4 ≤ stream.length := by
  obtain ⟨rfl, size⟩ := split?_eq_some found
  rw [List.length_append]
  omega

/-- The whole envelopes at the front of a stream, and the tail after them. -/
def cut (stream : Bytes) : List Bytes × Bytes :=
  match _ : split? stream with
  | some (envelope, rest) =>
      let (envelopes, tail) := cut rest
      (envelope :: envelopes, tail)
  | none => ([], stream)
termination_by stream.length
decreasing_by
  have shorter := length_of_split?_eq_some ‹split? stream = some (envelope, rest)›
  omega

end RadioMesh.Envelope
