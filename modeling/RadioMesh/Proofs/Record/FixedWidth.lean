import RadioMesh.Bytes

/-!
# Records of one width

Records that are all written with the same number of bytes lie in a row at positions that are
known beforehand.  If every byte string of that length is one of them, then a byte string
starts with as many of them as its length has room for.
-/

namespace RadioMesh

/-- Records are written with one number of bytes, and any bytes that are so many are one of
them. -/
structure FixedWidth {α : Type} (encode : α → Bytes) (width : Nat) : Prop where
  sized : ∀ item, (encode item).length = width
  started : ∀ wire : Bytes, width ≤ wire.length → ∃ item rest, wire = encode item ++ rest

namespace FixedWidth

variable {α : Type} {encode : α → Bytes} {width : Nat}

theorem length_flatMap (fixed : FixedWidth encode width) (items : List α) :
    (items.flatMap encode).length = items.length * width := by
  induction items with
  | nil => rw [List.flatMap_nil, List.length_nil, List.length_nil, Nat.zero_mul]
  | cons item items ih =>
      rw [List.flatMap_cons, List.length_append, fixed.sized, ih, List.length_cons, Nat.succ_mul,
        Nat.add_comm]

/-- Bytes that have room for some records start with so many of them. -/
theorem exists_flatMap_append (fixed : FixedWidth encode width) {count : Nat} {wire : Bytes}
    (enough : count * width ≤ wire.length) :
    ∃ (items : List α) (trailing : Bytes),
      items.length = count ∧ wire = items.flatMap encode ++ trailing := by
  induction count generalizing wire with
  | zero => exact ⟨[], wire, rfl, rfl⟩
  | succ count ih =>
      rw [Nat.succ_mul] at enough
      obtain ⟨item, rest, rfl⟩ := fixed.started wire (Nat.le_of_add_left_le enough)
      rw [List.length_append, fixed.sized, Nat.add_comm width] at enough
      obtain ⟨items, trailing, counted, rfl⟩ := ih (Nat.le_of_add_le_add_right enough)
      refine ⟨item :: items, trailing, ?_, ?_⟩
      · rw [List.length_cons, counted]
      · rw [List.flatMap_cons, List.append_assoc]

/-- Bytes whose number is a multiple of the width are records in a row. -/
theorem exists_flatMap_eq_of_dvd (fixed : FixedWidth encode width) {wire : Bytes}
    (whole : width ∣ wire.length) : ∃ items : List α, items.flatMap encode = wire := by
  obtain ⟨count, long⟩ := whole
  rw [Nat.mul_comm] at long
  obtain ⟨items, trailing, rfl, rfl⟩ := fixed.exists_flatMap_append (Nat.le_of_eq long.symm)
  rw [List.length_append, fixed.length_flatMap] at long
  obtain rfl := List.eq_nil_of_length_eq_zero (Nat.add_eq_left.mp long)
  exact ⟨items, (List.append_nil _).symm⟩

end FixedWidth

end RadioMesh
