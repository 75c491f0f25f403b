import RadioMesh.Log.Attempt

/-!
# Times from their low sixteen bits

Nodes send only the low sixteen bits of their clock, a stamp.  Given a
reference time near the node's own, the full time is the one nearest to the
reference, in the node's time base, that has this stamp.  Seconds are kept in
the range of sixty-four bits: sums beyond it stay at its ends.
-/

namespace RadioMesh

/-- A clock whose time base is `utcOffset` seconds ahead of universal time. -/
structure PartialClock where
  utcOffset : Int32
  deriving DecidableEq, Repr

namespace PartialClock

/-- The number of seconds after which stamps repeat. -/
def window : Int := 65536

/-- The distance up to which a time with the right stamp is kept. -/
def halfWindow : Int := 32767

def earliest : Int := -9223372036854775808

def latest : Int := 9223372036854775807

/-- The representable second nearest to a sum. -/
def clamp (seconds : Int) : Int := max earliest (min seconds latest)

/-- The time with the given stamp in the window that holds `base`. -/
def withStamp (base : Int) (stamp : UInt16) : Int := base - base % window + stamp.toNat

/-- A reference time in the time base of the clock. -/
def localTime (clock : PartialClock) (reference : Int64) : Int :=
  clamp (reference.toInt + clock.utcOffset.toInt)

/-- How far a time is ahead of the time with the given stamp in its window. -/
def lead (here : Int) (stamp : UInt16) : Int := here - withStamp here stamp

def nearest (here : Int) (stamp : UInt16) : Int :=
  if lead here stamp < -halfWindow then withStamp (clamp (here - window)) stamp
  else if lead here stamp > halfWindow then withStamp (clamp (here + window)) stamp
  else withStamp here stamp

/-- The full time of a stamp that was sent near the reference time. -/
def reconstruct (clock : PartialClock) (reference : Int64) (stamp : UInt16) : Int64 :=
  Int64.ofInt (nearest (clock.localTime reference) stamp)

def completedEvent (clock : PartialClock) (reference : Int64) (stamp : UInt16) : Event :=
  .stampCompleted reference stamp (lead (clock.localTime reference) stamp)
    (clock.reconstruct reference stamp)

def stampOf (time : Int64) : UInt16 := UInt16.ofNat (time.toInt % window).toNat

def readStamp (wire : Bytes) : Except WireError UInt16 :=
  match wire with
  | low :: high :: _ => .ok (Word16.ofBytes low high)
  | _ => .error (.tooShort 2 wire.length)

end PartialClock

end RadioMesh
