import RadioMesh.PartialClock

/-!
# The nearest time with a stamp

A reconstructed time is the representable time nearest to the local time
among those with the stamp, also in the first and the last window, where the
shifted time saturates, and no step on the way to it leaves the range of
sixty-four bits.
-/

namespace RadioMesh.PartialClock

/-- A number of seconds that sixty-four bits hold. -/
def Representable (seconds : Int) : Prop := earliest ≤ seconds ∧ seconds ≤ latest

def saturated (seconds : Int) : Int64 := Int64.ofInt (clamp seconds)

/-- The stamp written over the low sixteen bits of a word. -/
def masked (base : Int64) (stamp : UInt16) : Int64 :=
  base &&& ~~~65535 ||| Int64.ofNat stamp.toNat

def localWord (clock : PartialClock) (reference : Int64) : Int64 :=
  saturated (reference.toInt + clock.utcOffset.toInt)

/-- The time with a stamp near `here`, found on words alone.  The difference
may wrap around, unlike the sums. -/
def wordwise (here : Int64) (stamp : UInt16) : Int64 :=
  if here - masked here stamp < -32767 then masked (saturated (here.toInt - window)) stamp
  else if here - masked here stamp > 32767 then
    masked (saturated (here.toInt + window)) stamp
  else masked here stamp

theorem stamp_lt (stamp : UInt16) : (stamp.toNat : Int) < 65536 := by
  have := stamp.toNat_lt
  omega

theorem representable_toInt (time : Int64) : Representable time.toInt := by
  have lower := Int64.le_toInt time
  have upper := Int64.toInt_lt time
  simp only [Representable, earliest, latest]
  omega

theorem toInt_ofInt_of_representable {seconds : Int} (representable : Representable seconds) :
    (Int64.ofInt seconds).toInt = seconds := by
  simp only [Representable, earliest, latest] at representable
  exact Int64.toInt_ofInt_of_le (by omega) (by omega)

theorem representable_clamp (seconds : Int) : Representable (clamp seconds) := by
  simp only [Representable, clamp, earliest, latest]
  omega

theorem representable_localTime (clock : PartialClock) (reference : Int64) :
    Representable (clock.localTime reference) :=
  representable_clamp _

/-- The ends of the range are ends of windows, so a window lies in it whole. -/
theorem representable_withStamp {base : Int} (representable : Representable base)
    (stamp : UInt16) : Representable (withStamp base stamp) := by
  have := stamp_lt stamp
  simp only [Representable, withStamp, window, earliest, latest] at representable ⊢
  omega

theorem representable_lead (here : Int) (stamp : UInt16) :
    Representable (lead here stamp) := by
  have := stamp_lt stamp
  simp only [Representable, lead, withStamp, window, earliest, latest]
  omega

theorem representable_nearest {here : Int} (representable : Representable here)
    (stamp : UInt16) : Representable (nearest here stamp) := by
  simp only [nearest]
  split
  · exact representable_withStamp (representable_clamp _) stamp
  · split
    · exact representable_withStamp (representable_clamp _) stamp
    · exact representable_withStamp representable stamp

theorem toInt_reconstruct (clock : PartialClock) (reference : Int64) (stamp : UInt16) :
    (clock.reconstruct reference stamp).toInt = nearest (clock.localTime reference) stamp :=
  toInt_ofInt_of_representable
    (representable_nearest (representable_localTime clock reference) stamp)

theorem withStamp_mod (base : Int) (stamp : UInt16) :
    withStamp base stamp % window = stamp.toNat := by
  have := stamp_lt stamp
  simp only [withStamp, window]
  omega

theorem nearest_mod (here : Int) (stamp : UInt16) :
    nearest here stamp % window = stamp.toNat := by
  simp only [nearest]
  split
  · exact withStamp_mod _ stamp
  · split
    · exact withStamp_mod _ stamp
    · exact withStamp_mod _ stamp

theorem withStamp_clamp_sub {here : Int} (representable : Representable here)
    (stamp : UInt16) :
    withStamp (clamp (here - window)) stamp =
      if here < earliest + window then withStamp here stamp
      else withStamp here stamp - window := by
  simp only [Representable, earliest, latest] at representable
  simp only [withStamp, clamp, window, earliest, latest]
  omega

theorem withStamp_clamp_add {here : Int} (representable : Representable here)
    (stamp : UInt16) :
    withStamp (clamp (here + window)) stamp =
      if latest - window < here then withStamp here stamp
      else withStamp here stamp + window := by
  simp only [Representable, earliest, latest] at representable
  simp only [withStamp, clamp, window, earliest, latest]
  omega

/-- The time is kept unless its stamp is more than half a window off and the
neighbouring window lies in the range. -/
theorem nearest_cases {here : Int} (representable : Representable here) (stamp : UInt16) :
    (lead here stamp < -halfWindow ∧ earliest + window ≤ here ∧
      nearest here stamp = withStamp here stamp - window) ∨
    (halfWindow < lead here stamp ∧ here ≤ latest - window ∧
      nearest here stamp = withStamp here stamp + window) ∨
    ((lead here stamp < -halfWindow → here < earliest + window) ∧
      (halfWindow < lead here stamp → latest - window < here) ∧
      nearest here stamp = withStamp here stamp) := by
  simp only [nearest, withStamp_clamp_sub representable, withStamp_clamp_add representable]
  by_cases ahead : lead here stamp < -halfWindow
  · -- In the first window the shift saturates within the window itself.
    by_cases first : here < earliest + window
    · refine .inr (.inr ⟨fun _ => first, fun behind => ?_, by simp [ahead, first]⟩)
      simp only [halfWindow] at ahead behind
      omega
    · exact .inl ⟨ahead, by omega, by simp [ahead, first]⟩
  · by_cases behind : halfWindow < lead here stamp
    · by_cases last : latest - window < here
      · exact .inr (.inr ⟨fun is => absurd is ahead, fun _ => last,
          by simp [ahead, behind, last]⟩)
      · exact .inr (.inl ⟨behind, by omega, by simp [ahead, behind, last]⟩)
    · exact .inr (.inr ⟨fun is => absurd is ahead, fun is => absurd is behind,
        by simp [ahead, behind]⟩)

theorem nearest_closest {here other : Int} {stamp : UInt16}
    (hereRepresentable : Representable here) (otherRepresentable : Representable other)
    (stamped : other % window = stamp.toNat) :
    (nearest here stamp - here).natAbs ≤ (other - here).natAbs := by
  have bound := stamp_lt stamp
  rcases nearest_cases hereRepresentable stamp with
    ⟨ahead, inner, found⟩ | ⟨behind, inner, found⟩ | ⟨first, last, found⟩
  all_goals
    rw [found]
    simp only [Representable, lead, withStamp, halfWindow, window, earliest, latest] at *
    omega

/-- Of two candidates half a window away, the time is the one outside the
window of the local time. -/
theorem nearest_of_tie {here : Int} {stamp : UInt16} (representable : Representable here)
    (belowRepresentable : Representable (here - 32768))
    (aboveRepresentable : Representable (here + 32768))
    (stamped : (here - 32768) % window = stamp.toNat) :
    (nearest here stamp = here - 32768 ∨ nearest here stamp = here + 32768) ∧
      nearest here stamp / window ≠ here / window := by
  have bound := stamp_lt stamp
  rcases nearest_cases representable stamp with
    ⟨ahead, inner, found⟩ | ⟨behind, inner, found⟩ | ⟨first, last, found⟩
  all_goals
    rw [found]
    simp only [Representable, lead, withStamp, halfWindow, window, earliest, latest] at *
    omega

/-- A time is the only one with its stamp within half a window. -/
theorem nearest_of_close {here node : Int} {stamp : UInt16}
    (hereRepresentable : Representable here) (nodeRepresentable : Representable node)
    (stamped : node % window = stamp.toNat) (close : (node - here).natAbs ≤ 32767) :
    nearest here stamp = node := by
  have closest := nearest_closest hereRepresentable nodeRepresentable stamped
  have congruent := nearest_mod here stamp
  simp only [window] at stamped congruent
  omega

theorem stampOf_toNat (time : Int64) : ((stampOf time).toNat : Int) = time.toInt % window := by
  have residue := Int.emod_nonneg time.toInt (show window ≠ 0 by decide)
  have below := Int.emod_lt_of_pos time.toInt (show 0 < window by decide)
  simp only [stampOf, UInt16.toNat_ofNat']
  simp only [window] at *
  omega

theorem toNat_cleared (word : BitVec 64) :
    (word &&& ~~~65535#64).toNat = word.toNat - word.toNat % 65536 := by
  have whole : word &&& ~~~65535#64 ||| word &&& 65535#64 = word := by
    ext position
    simp only [BitVec.getElem_or, BitVec.getElem_and, BitVec.getElem_not]
    cases word[position] <;> cases (65535#64)[position] <;> decide
  have apart : (word &&& ~~~65535#64) &&& (word &&& 65535#64) = 0#64 := by
    ext position
    simp only [BitVec.getElem_and, BitVec.getElem_not]
    cases word[position] <;> cases (65535#64)[position] <;> simp
  have low : (word &&& 65535#64).toNat = word.toNat % 65536 := by
    rw [BitVec.toNat_and]
    exact Nat.and_two_pow_sub_one_eq_mod _ 16
  have sum := BitVec.toNat_add_of_and_eq_zero apart
  rw [BitVec.add_eq_or_of_and_eq_zero _ _ apart, whole, low] at sum
  omega

/-- Clearing the low sixteen bits and writing the stamp over them is the
arithmetic of windows, for negative times as well. -/
theorem toInt_masked (base : Int64) (stamp : UInt16) :
    (masked base stamp).toInt = withStamp base.toInt stamp := by
  have small := stamp.toNat_lt
  have shifted : base.toBitVec.toNat - base.toBitVec.toNat % 65536 =
      (base.toBitVec.toNat / 65536) <<< 16 := by
    rw [Nat.shiftLeft_eq]
    omega
  have word : (masked base stamp).toBitVec.toNat =
      base.toBitVec.toNat - base.toBitVec.toNat % 65536 + stamp.toNat := by
    have cleared := toNat_cleared base.toBitVec
    have split : (masked base stamp).toBitVec =
        base.toBitVec &&& ~~~65535#64 ||| BitVec.ofNat 64 stamp.toNat := rfl
    rw [split, BitVec.toNat_or, cleared, shifted, BitVec.toNat_ofNat,
      Nat.mod_eq_of_lt (by omega), Nat.shiftLeft_add_eq_or_of_lt (by omega)]
  have before : base.toInt = base.toBitVec.toInt := rfl
  have after : (masked base stamp).toInt = (masked base stamp).toBitVec.toInt := rfl
  rw [before, after, BitVec.toInt_eq_toNat_cond, BitVec.toInt_eq_toNat_cond, word]
  simp only [withStamp, window]
  omega

theorem toInt_saturated (seconds : Int) : (saturated seconds).toInt = clamp seconds :=
  toInt_ofInt_of_representable (representable_clamp seconds)

theorem toInt_localWord (clock : PartialClock) (reference : Int64) :
    (clock.localWord reference).toInt = clock.localTime reference :=
  toInt_saturated _

theorem toInt_sub_masked (here : Int64) (stamp : UInt16) :
    (here - masked here stamp).toInt = lead here.toInt stamp := by
  have representable := representable_lead here.toInt stamp
  simp only [Representable, earliest, latest] at representable
  rw [Int64.toInt_sub, toInt_masked]
  exact Int.bmod_eq_of_le (by simp only [lead] at representable; omega)
    (by simp only [lead] at representable; omega)

theorem toInt_wordwise (here : Int64) (stamp : UInt16) :
    (wordwise here stamp).toInt = nearest here.toInt stamp := by
  simp only [wordwise, nearest, Int64.lt_iff_toInt_lt, gt_iff_lt, toInt_sub_masked]
  by_cases ahead : lead here.toInt stamp < -halfWindow
  · have wordAhead : lead here.toInt stamp < (-32767 : Int64).toInt := ahead
    simp only [ahead, wordAhead, if_true, toInt_masked, toInt_saturated]
  · have wordAhead : ¬lead here.toInt stamp < (-32767 : Int64).toInt := ahead
    by_cases behind : halfWindow < lead here.toInt stamp
    · have wordBehind : (32767 : Int64).toInt < lead here.toInt stamp := behind
      simp only [ahead, wordAhead, behind, wordBehind, if_true, if_false, toInt_masked,
        toInt_saturated]
    · have wordBehind : ¬(32767 : Int64).toInt < lead here.toInt stamp := behind
      simp only [ahead, wordAhead, behind, wordBehind, if_false, toInt_masked]

theorem reconstruct_eq_wordwise (clock : PartialClock) (reference : Int64)
    (stamp : UInt16) :
    clock.reconstruct reference stamp = wordwise (clock.localWord reference) stamp :=
  Int64.toInt_inj.mp (by rw [toInt_reconstruct, toInt_wordwise, toInt_localWord])

/-- Words give the time nearest to the local time: no difference wraps around,
the time has the stamp, no other representable time with the stamp is nearer,
a tie goes to the time outside the window of the local time, and a node less
than half a window away has its time restored. -/
theorem reconstruct_nearest_of_stamped (clock : PartialClock) (reference : Int64)
    (stamp : UInt16) :
    let here := clock.localWord reference
    let found := clock.reconstruct reference stamp
    here.toInt = clamp (reference.toInt + clock.utcOffset.toInt) ∧
    found = wordwise here stamp ∧
    (here - masked here stamp).toInt = here.toInt - (masked here stamp).toInt ∧
    found.toInt % window = stamp.toNat ∧
    (∀ other : Int64, other.toInt % window = stamp.toNat →
      (found.toInt - here.toInt).natAbs ≤ (other.toInt - here.toInt).natAbs) ∧
    (∀ below above : Int64, below.toInt = here.toInt - 0x8000 →
      above.toInt = here.toInt + 0x8000 → below.toInt % window = stamp.toNat →
      (found = below ∨ found = above) ∧ found.toInt / window ≠ here.toInt / window) ∧
    (∀ node : Int64, (node.toInt - here.toInt).natAbs ≤ 0x7FFF →
      clock.reconstruct reference (stampOf node) = node) := by
  intro here found
  have hereRepresentable := representable_toInt here
  have foundNearest : found.toInt = nearest here.toInt stamp := by
    rw [toInt_reconstruct, toInt_localWord]
  refine ⟨toInt_saturated _, reconstruct_eq_wordwise clock reference stamp, ?_, ?_, ?_, ?_, ?_⟩
  · rw [toInt_sub_masked, toInt_masked, lead]
  · rw [foundNearest]
    exact nearest_mod here.toInt stamp
  · intro other stamped
    rw [foundNearest]
    exact nearest_closest hereRepresentable (representable_toInt other) stamped
  · intro below above belowHere aboveHere stamped
    have belowRepresentable := belowHere ▸ representable_toInt below
    have aboveRepresentable := aboveHere ▸ representable_toInt above
    obtain ⟨either, outside⟩ := nearest_of_tie hereRepresentable belowRepresentable
      aboveRepresentable (belowHere ▸ stamped)
    refine ⟨?_, foundNearest ▸ outside⟩
    rcases either with isBelow | isAbove
    · exact .inl (Int64.toInt_inj.mp (by rw [foundNearest, isBelow, belowHere]))
    · exact .inr (Int64.toInt_inj.mp (by rw [foundNearest, isAbove, aboveHere]))
  · intro node close
    apply Int64.toInt_inj.mp
    rw [toInt_reconstruct, ← toInt_localWord]
    exact nearest_of_close hereRepresentable (representable_toInt node)
      (stampOf_toNat node).symm close

/-- A tie, a time of the first window, and a node before 1970. -/
theorem reconstruct_nearest_of_tie :
    let clock : PartialClock := ⟨0⟩
    (clock.reconstruct 0x5A538000 0 = 0x5A530000 ∨
        clock.reconstruct 0x5A538000 0 = 0x5A540000) ∧
      (clock.reconstruct 0x5A538000 0).toInt / window ≠ 0x5A538000 / window ∧
      ((clock.reconstruct Int64.minValue 0xFFFF).toInt - earliest).natAbs ≤
        (earliest + 0x1FFFF - earliest).natAbs ∧
      clock.reconstruct (-980) (stampOf (-1000)) = -1000 := by
  intro clock
  obtain ⟨-, -, -, -, -, tie, -⟩ := reconstruct_nearest_of_stamped clock 0x5A538000 0
  obtain ⟨-, -, -, -, closest, -, -⟩ :=
    reconstruct_nearest_of_stamped clock Int64.minValue 0xFFFF
  obtain ⟨-, -, -, -, -, -, restored⟩ := reconstruct_nearest_of_stamped clock (-980) 0
  obtain ⟨either, outside⟩ := tie 0x5A530000 0x5A540000 (by decide) (by decide) (by decide)
  have start : (clock.localWord Int64.minValue).toInt = earliest := by decide
  have later : (Int64.ofInt (earliest + 0x1FFFF)).toInt = earliest + 0x1FFFF := by decide
  have nearer := closest (Int64.ofInt (earliest + 0x1FFFF)) (by decide)
  rw [start, later] at nearer
  exact ⟨either, outside, nearer, restored (-1000) (by decide)⟩

end RadioMesh.PartialClock
