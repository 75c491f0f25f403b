/-!
# Bytes and little-endian words

A byte string is a list of bytes.  Words of sixteen and thirty-two bits travel
with their low byte first.  A word is taken apart and put together by division
and remainder, and both directions are inverse to each other.
-/

namespace RadioMesh

/-- A byte string, first byte first. -/
abbrev Bytes := List UInt8

/-- The number that some bytes spell, the lowest of them first. -/
def Bytes.number : Bytes → Nat
  | [] => 0
  | byte :: rest => byte.toNat + 256 * number rest

namespace Word16

/-- The byte of a word that travels first. -/
def low (word : UInt16) : UInt8 := UInt8.ofNat (word.toNat % 256)

/-- The byte of a word that travels second. -/
def high (word : UInt16) : UInt8 := UInt8.ofNat (word.toNat / 256)

def toBytes (word : UInt16) : Bytes := [low word, high word]

/-- The word that travels as `first` and then `second`. -/
def ofBytes (first second : UInt8) : UInt16 :=
  UInt16.ofNat (first.toNat + 256 * second.toNat)

theorem toNat_low (word : UInt16) : (low word).toNat = word.toNat % 256 := by
  simp only [low, UInt8.toNat_ofNat']
  omega

theorem toNat_high (word : UInt16) : (high word).toNat = word.toNat / 256 := by
  have bound := word.toNat_lt
  simp only [high, UInt8.toNat_ofNat']
  omega

theorem toNat_ofBytes (first second : UInt8) :
    (ofBytes first second).toNat = first.toNat + 256 * second.toNat := by
  have firstBound := first.toNat_lt
  have secondBound := second.toNat_lt
  simp only [ofBytes, UInt16.toNat_ofNat']
  omega

@[simp] theorem ofBytes_low_high (word : UInt16) :
    ofBytes (low word) (high word) = word := by
  apply UInt16.toNat_inj.mp
  rw [toNat_ofBytes, toNat_low, toNat_high]
  omega

@[simp] theorem low_ofBytes (first second : UInt8) :
    low (ofBytes first second) = first := by
  have firstBound := first.toNat_lt
  apply UInt8.toNat_inj.mp
  rw [toNat_low, toNat_ofBytes]
  omega

@[simp] theorem high_ofBytes (first second : UInt8) :
    high (ofBytes first second) = second := by
  have firstBound := first.toNat_lt
  apply UInt8.toNat_inj.mp
  rw [toNat_high, toNat_ofBytes]
  omega

@[simp] theorem length_toBytes (word : UInt16) : (toBytes word).length = 2 := rfl

end Word16

end RadioMesh
