import RadioMesh.Proofs.Clock.Nearest

/-!
# Later references, later times

The time nearest to a reference never moves back while the reference moves forward, whatever the
windows do in between: were two times in the wrong order, each would be at least as near to the
reference of the other as that one's own time, which only equal references allow.  The time moves
by whole windows and keeps up with the reference.
-/

namespace RadioMesh.PartialClock

theorem clamp_monotone {earlier later : Int} (order : earlier ≤ later) :
    clamp earlier ≤ clamp later := by
  simp only [clamp]
  omega

theorem localTime_monotone (clock : PartialClock) {earlier later : Int64}
    (order : earlier ≤ later) : clock.localTime earlier ≤ clock.localTime later := by
  apply clamp_monotone
  have seconds := Int64.le_iff_toInt_le.mp order
  exact Int.add_le_add_right seconds _

theorem nearest_monotone {earlier later : Int} (stamp : UInt16)
    (earlierRepresentable : Representable earlier) (laterRepresentable : Representable later)
    (order : earlier ≤ later) : nearest earlier stamp ≤ nearest later stamp := by
  apply Int.not_lt.mp
  intro backwards
  have earlierClosest := nearest_closest earlierRepresentable
    (representable_nearest laterRepresentable stamp) (nearest_mod later stamp)
  have laterClosest := nearest_closest laterRepresentable
    (representable_nearest earlierRepresentable stamp) (nearest_mod earlier stamp)
  -- Both references would lie exactly in the middle between the two times.
  have same : earlier = later := by omega
  subst same
  exact Int.lt_irrefl _ backwards

/-- A time lies less than a window away from the local time, in the outer windows as well. -/
theorem natAbs_nearest_sub_lt {here : Int} (representable : Representable here) (stamp : UInt16) :
    (nearest here stamp - here).natAbs < window.natAbs := by
  have bound := stamp_lt stamp
  rcases nearest_cases representable stamp with
    ⟨ahead, inner, found⟩ | ⟨behind, inner, found⟩ | ⟨first, last, found⟩
  all_goals
    rw [found]
    simp only [lead, withStamp, halfWindow, window] at *
    omega

/-- Times with one stamp are a number of whole windows apart. -/
theorem exists_windows_of_le {left right : Int} (same : left % window = right % window)
    (order : left ≤ right) : ∃ windows : Nat, right = left + windows * window := by
  refine ⟨((right - left) / window).toNat, ?_⟩
  simp only [window] at same ⊢
  omega

/-- A later reference never gives an earlier time for the same stamp.  The time moves forward by
whole windows, and by less than two windows more or less than the local time does. -/
theorem reconstruct_monotone (clock : PartialClock) (stamp : UInt16) {earlier later : Int64}
    (order : earlier ≤ later) :
    clock.reconstruct earlier stamp ≤ clock.reconstruct later stamp ∧
    ∃ windows : Nat,
      (clock.reconstruct later stamp).toInt =
        (clock.reconstruct earlier stamp).toInt + windows * window ∧
      (windows * window - (clock.localTime later - clock.localTime earlier)).natAbs <
        2 * window.natAbs := by
  have earlierRepresentable := representable_localTime clock earlier
  have laterRepresentable := representable_localTime clock later
  have forward : nearest (clock.localTime earlier) stamp ≤ nearest (clock.localTime later) stamp :=
    nearest_monotone stamp earlierRepresentable laterRepresentable (localTime_monotone clock order)
  rw [Int64.le_iff_toInt_le, toInt_reconstruct, toInt_reconstruct]
  refine ⟨forward, ?_⟩
  have same : nearest (clock.localTime earlier) stamp % window =
      nearest (clock.localTime later) stamp % window := by
    rw [nearest_mod, nearest_mod]
  obtain ⟨windows, advanced⟩ := exists_windows_of_le same forward
  refine ⟨windows, advanced, ?_⟩
  have earlierNear := natAbs_nearest_sub_lt earlierRepresentable stamp
  have laterNear := natAbs_nearest_sub_lt laterRepresentable stamp
  omega

/-- A tie is reached, zero is crossed, and the sums saturate at either end. -/
theorem reconstruct_monotone_of_jumps :
    let clock : PartialClock := ⟨3600⟩
    let behind : PartialClock := ⟨-3600⟩
    ((0x5A537FFF - 3600 : Int64) ≤ 0x5A538000 - 3600 ∧
      clock.reconstruct (0x5A537FFF - 3600) 0 ≤ clock.reconstruct (0x5A538000 - 3600) 0 ∧
      ∃ windows : Nat,
        (clock.reconstruct (0x5A538000 - 3600) 0).toInt =
          (clock.reconstruct (0x5A537FFF - 3600) 0).toInt + windows * window ∧
        (windows * window - (clock.localTime (0x5A538000 - 3600) -
          clock.localTime (0x5A537FFF - 3600))).natAbs < 2 * window.natAbs) ∧
    ((-3601 : Int64) ≤ -3600 ∧
      clock.reconstruct (-3601) 0xFFFF ≤ clock.reconstruct (-3600) 0xFFFF) ∧
    (Int64.maxValue - 3600 ≤ Int64.maxValue ∧
      clock.reconstruct (Int64.maxValue - 3600) 0 ≤ clock.reconstruct Int64.maxValue 0) ∧
    Int64.minValue ≤ Int64.minValue + 0x8000 ∧
      behind.reconstruct Int64.minValue 0xFFFF ≤
        behind.reconstruct (Int64.minValue + 0x8000) 0xFFFF := by
  intro clock behind
  have tied : (0x5A537FFF - 3600 : Int64) ≤ 0x5A538000 - 3600 := by decide
  have zero : (-3601 : Int64) ≤ -3600 := by decide
  have last : Int64.maxValue - 3600 ≤ Int64.maxValue := by decide
  have first : Int64.minValue ≤ Int64.minValue + 0x8000 := by decide
  exact ⟨⟨tied, reconstruct_monotone clock 0 tied⟩,
    ⟨zero, (reconstruct_monotone clock 0xFFFF zero).1⟩,
    ⟨last, (reconstruct_monotone clock 0 last).1⟩,
    first, (reconstruct_monotone behind 0xFFFF first).1⟩

end RadioMesh.PartialClock
