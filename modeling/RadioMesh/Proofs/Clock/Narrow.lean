import RadioMesh.Proofs.Clock.Nearest
import Mathlib.Algebra.Group.Int.Defs
import Mathlib.Algebra.Group.Nat.Defs

/-!
# Times in thirty-two bits

The time near a local time can also be found on words of thirty-two bits, with the stamp in place
of the two low bytes and with sums that wrap around.  This gives the low thirty-two bits of the
full time.  So it is the full time itself, unless the window that is taken lies before the first or
behind the last one that thirty-two bits hold.
-/

namespace RadioMesh.PartialClock

namespace Narrow

/-- The number of values of a word. -/
def modulus : Int := 4294967296

/-- A word as its four bytes, the low byte first. -/
def bytes (word : UInt32) : Bytes :=
  [UInt8.ofNat (word.toNat % 256), UInt8.ofNat (word.toNat / 256 % 256),
    UInt8.ofNat (word.toNat / 65536 % 256), UInt8.ofNat (word.toNat / 16777216)]

/-- A word with a stamp in place of its two low bytes. -/
def withStamp (word : UInt32) (stamp : UInt16) : UInt32 :=
  UInt32.ofNat (Bytes.number (Word16.toBytes stamp ++ (bytes word).drop 2))

/-- How far a word is ahead of itself with the stamp, as a signed difference. -/
def lead (word : UInt32) (stamp : UInt16) : Int32 := (word - withStamp word stamp).toInt32

/-- The stamp is so far ahead of the word that it belongs to the window before. -/
def ShiftsDown (word : UInt32) (stamp : UInt16) : Prop := lead word stamp < -0x7FFF

/-- The stamp is so far behind the word that it belongs to the window after. -/
def ShiftsUp (word : UInt32) (stamp : UInt16) : Prop := 0x7FFF < lead word stamp

instance (word : UInt32) (stamp : UInt16) : Decidable (ShiftsDown word stamp) :=
  inferInstanceAs (Decidable (lead word stamp < -0x7FFF))

instance (word : UInt32) (stamp : UInt16) : Decidable (ShiftsUp word stamp) :=
  inferInstanceAs (Decidable (0x7FFF < lead word stamp))

/-- The time with a stamp near `word`.  The sums wrap around. -/
def nearest (word : UInt32) (stamp : UInt16) : UInt32 :=
  if ShiftsDown word stamp then withStamp (word - 0x10000) stamp
  else if ShiftsUp word stamp then withStamp (word + 0x10000) stamp
  else withStamp word stamp

theorem number_bytes (word : UInt32) : Bytes.number (bytes word) = word.toNat := by
  have bound := word.toNat_lt
  simp only [bytes, Bytes.number, UInt8.toNat_ofNat']
  omega

/-- Replacing the two low bytes is the arithmetic of windows. -/
theorem toNat_withStamp (word : UInt32) (stamp : UInt16) :
    ((withStamp word stamp).toNat : Int) = PartialClock.withStamp word.toNat stamp := by
  have wordBound := word.toNat_lt
  have stampBound := stamp.toNat_lt
  have whole := number_bytes word
  simp only [bytes, Bytes.number] at whole
  simp only [withStamp, bytes, Word16.toBytes, Bytes.number, List.drop_succ_cons, List.drop_zero,
    List.cons_append, List.nil_append, UInt32.toNat_ofNat', Word16.toNat_low, Word16.toNat_high,
    UInt8.toNat_ofNat', PartialClock.withStamp, window] at whole ⊢
  omega

/-- The difference is less than a window, so it does not wrap around. -/
theorem toInt_lead (word : UInt32) (stamp : UInt16) :
    (lead word stamp).toInt = PartialClock.lead word.toNat stamp := by
  have wordBound := word.toNat_lt
  have stampBound := stamp.toNat_lt
  have stamped := toNat_withStamp word stamp
  have signed : (lead word stamp).toInt = (word - withStamp word stamp).toBitVec.toInt := rfl
  rw [signed, BitVec.toInt_eq_toNat_cond, UInt32.toNat_toBitVec, UInt32.toNat_sub]
  simp only [PartialClock.lead, PartialClock.withStamp, window] at stamped ⊢
  omega

theorem shiftsDown_iff {word : UInt32} {stamp : UInt16} :
    ShiftsDown word stamp ↔ PartialClock.lead word.toNat stamp < -halfWindow := by
  rw [ShiftsDown, Int32.lt_iff_toInt_lt, toInt_lead]
  exact Iff.rfl

theorem shiftsUp_iff {word : UInt32} {stamp : UInt16} :
    ShiftsUp word stamp ↔ halfWindow < PartialClock.lead word.toNat stamp := by
  rw [ShiftsUp, Int32.lt_iff_toInt_lt, toInt_lead]
  exact Iff.rfl

theorem toNat_sub_window (word : UInt32) :
    ((word - 0x10000).toNat : Int) = ((word.toNat : Int) - window) % modulus := by
  have bound := word.toNat_lt
  have size : (0x10000 : UInt32).toNat = 65536 := rfl
  rw [UInt32.toNat_sub, size]
  simp only [window, modulus]
  omega

theorem toNat_add_window (word : UInt32) :
    ((word + 0x10000).toNat : Int) = ((word.toNat : Int) + window) % modulus := by
  have size : (0x10000 : UInt32).toNat = 65536 := rfl
  rw [UInt32.toNat_add, size]
  simp only [window, modulus]
  omega

end Narrow

/-- Windows of words are windows of times, wherever the time lies. -/
theorem withStamp_mod_modulus (base : Int) (stamp : UInt16) :
    withStamp (base % Narrow.modulus) stamp = withStamp base stamp % Narrow.modulus := by
  have bound := stamp_lt stamp
  simp only [withStamp, window, Narrow.modulus]
  omega

/-- Near a word no sum leaves the range of sixty-four bits. -/
theorem nearest_of_word (word : UInt32) (stamp : UInt16) :
    nearest word.toNat stamp =
      if lead word.toNat stamp < -halfWindow then withStamp (word.toNat - window) stamp
      else if halfWindow < lead word.toNat stamp then withStamp (word.toNat + window) stamp
      else withStamp word.toNat stamp := by
  have bound := word.toNat_lt
  have below : clamp (word.toNat - window) = word.toNat - window := by
    simp only [clamp, window, earliest, latest]
    omega
  have above : clamp (word.toNat + window) = word.toNat + window := by
    simp only [clamp, window, earliest, latest]
    omega
  rw [nearest, below, above]

theorem toNat_narrow_nearest (word : UInt32) (stamp : UInt16) :
    ((Narrow.nearest word stamp).toNat : Int) = nearest word.toNat stamp % Narrow.modulus := by
  have bound := word.toNat_lt
  rw [nearest_of_word, Narrow.nearest]
  simp only [Narrow.shiftsDown_iff, Narrow.shiftsUp_iff]
  by_cases ahead : lead word.toNat stamp < -halfWindow
  · rw [if_pos ahead, if_pos ahead, Narrow.toNat_withStamp, Narrow.toNat_sub_window,
      withStamp_mod_modulus]
  · by_cases behind : halfWindow < lead word.toNat stamp
    · rw [if_neg ahead, if_neg ahead, if_pos behind, if_pos behind, Narrow.toNat_withStamp,
        Narrow.toNat_add_window, withStamp_mod_modulus]
    · have inside : (word.toNat : Int) % Narrow.modulus = word.toNat := by
        simp only [Narrow.modulus]
        omega
      rw [if_neg ahead, if_neg ahead, if_neg behind, if_neg behind, Narrow.toNat_withStamp,
        ← withStamp_mod_modulus, inside]

/-- Only from the first window is a time found before the range of words. -/
theorem nearest_neg_iff (word : UInt32) (stamp : UInt16) :
    nearest word.toNat stamp < 0 ↔
      (word.toNat : Int) < window ∧ lead word.toNat stamp < -halfWindow := by
  have bound := stamp_lt stamp
  rw [nearest_of_word]
  simp only [lead, withStamp, halfWindow, window]
  omega

/-- Only from the last window is a time found behind the range of words. -/
theorem modulus_le_nearest_iff (word : UInt32) (stamp : UInt16) :
    Narrow.modulus ≤ nearest word.toNat stamp ↔
      Narrow.modulus - window ≤ word.toNat ∧ halfWindow < lead word.toNat stamp := by
  have bound := stamp_lt stamp
  have wordBound := word.toNat_lt
  rw [nearest_of_word]
  simp only [lead, withStamp, halfWindow, window, Narrow.modulus]
  omega

/-- A number is its remainder exactly if it is one of the values of a word. -/
theorem ne_mod_modulus_iff {found : Int} :
    found ≠ found % Narrow.modulus ↔ found < 0 ∨ Narrow.modulus ≤ found := by
  simp only [Narrow.modulus]
  omega

theorem localTime_of_word {clock : PartialClock} {reference : Int64} {word : UInt32}
    (here : reference.toInt + clock.utcOffset.toInt = word.toNat) :
    clock.localTime reference = word.toNat := by
  have bound := word.toNat_lt
  rw [localTime, here]
  simp only [clamp, earliest, latest]
  omega

/-- At a local time that thirty-two bits hold, masking is the replacement of two bytes, and the
time found on words is what thirty-two bits hold of the full time.  Both are the same where the
full time is such a word.  They differ in the first window if it is left downwards, in the last
one if it is left upwards, and nowhere else. -/
theorem reconstruct_refines_words {clock : PartialClock} {reference : Int64} {word : UInt32}
    (here : reference.toInt + clock.utcOffset.toInt = word.toNat) (stamp : UInt16) :
    let found := (clock.reconstruct reference stamp).toInt
    let short : Int := (Narrow.nearest word stamp).toNat
    (masked (clock.localWord reference) stamp).toInt = (Narrow.withStamp word stamp).toNat ∧
    short = found % 2 ^ 32 ∧
    (0 ≤ found → found ≤ 0xFFFFFFFF → short = found) ∧
    (short ≠ found ↔
      word.toNat < 65536 ∧ Narrow.ShiftsDown word stamp ∨
        2 ^ 32 - 65536 ≤ word.toNat ∧ Narrow.ShiftsUp word stamp) ∧
    (Narrow.ShiftsDown word stamp ↔
      clock.localWord reference - masked (clock.localWord reference) stamp < -0x7FFF) ∧
    (Narrow.ShiftsUp word stamp ↔
      clock.localWord reference - masked (clock.localWord reference) stamp > 0x7FFF) := by
  intro found short
  have inside := localTime_of_word here
  have foundNearest : found = nearest word.toNat stamp := by
    rw [← inside]
    exact toInt_reconstruct clock reference stamp
  have low : short = found % Narrow.modulus := by
    rw [foundNearest]
    exact toNat_narrow_nearest word stamp
  have leads : (clock.localWord reference - masked (clock.localWord reference) stamp).toInt =
      lead word.toNat stamp := by
    rw [toInt_sub_masked, toInt_localWord, inside]
  refine ⟨?_, low, ?_, ?_, ?_, ?_⟩
  · rw [toInt_masked, toInt_localWord, inside, Narrow.toNat_withStamp]
  · intro first last
    rw [low]
    simp only [Narrow.modulus]
    omega
  · rw [low, ne_comm, ne_mod_modulus_iff, foundNearest, nearest_neg_iff, modulus_le_nearest_iff,
      Narrow.shiftsDown_iff, Narrow.shiftsUp_iff]
    simp only [window, Narrow.modulus]
    omega
  · rw [Narrow.shiftsDown_iff, ← leads, Int64.lt_iff_toInt_lt]
    exact Iff.rfl
  · rw [Narrow.shiftsUp_iff, ← leads, gt_iff_lt, Int64.lt_iff_toInt_lt]
    exact Iff.rfl

/-- The first window is left downwards, the last one upwards, and both in between are kept. -/
theorem reconstruct_refines_words_at_both_ends :
    let clock : PartialClock := ⟨3600⟩
    let first : UInt32 := 16
    let last : UInt32 := 0xFFFFFFF0
    (first.toNat < 65536 ∧ Narrow.ShiftsDown first 0xFFF0 ∧
      ((Narrow.nearest first 0xFFF0).toNat : Int) ≠
        (clock.reconstruct (16 - 3600) 0xFFF0).toInt) ∧
    (2 ^ 32 - 65536 ≤ last.toNat ∧ Narrow.ShiftsUp last 0 ∧
      ((Narrow.nearest last 0).toNat : Int) ≠
        (clock.reconstruct (0xFFFFFFF0 - 3600) 0).toInt) ∧
    ((Narrow.nearest 0x5A537FFF 0x8000).toNat : Int) =
      (clock.reconstruct (0x5A537FFF - 3600) 0x8000).toInt := by
  intro clock first last
  obtain ⟨-, -, -, downwards, -, -⟩ := @reconstruct_refines_words clock (16 - 3600) first
    (by decide) 0xFFF0
  obtain ⟨-, -, -, upwards, -, -⟩ := @reconstruct_refines_words clock (0xFFFFFFF0 - 3600) last
    (by decide) 0
  obtain ⟨-, -, same, -, -, -⟩ := @reconstruct_refines_words clock (0x5A537FFF - 3600) 0x5A537FFF
    (by decide) 0x8000
  have early : first.toNat < 65536 ∧ Narrow.ShiftsDown first 0xFFF0 := by decide
  have late : 2 ^ 32 - 65536 ≤ last.toNat ∧ Narrow.ShiftsUp last 0 := by decide
  exact ⟨⟨early.1, early.2, downwards.mpr (.inl early)⟩,
    ⟨late.1, late.2, upwards.mpr (.inr late)⟩, same (by decide) (by decide)⟩

end RadioMesh.PartialClock
