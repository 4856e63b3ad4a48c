import Patchbay.Single
/-!
# The ring between the two audio callbacks

A fixed number of slots, a power of two, holds the samples on their way from the source to the sink.
Two cursors run freely through all 32-bit values, and a cursor modulo the number of slots is a slot.
One slot always stays empty, so that equal cursors mean an empty ring and never a full one. Blocks move
whole or not at all: one that does not fit is dropped and counted as an overrun, one that is not there
yet is silence and counted as an underrun.

`toList` is the queue that a ring stands for, oldest sample first.
-/

namespace Patchbay

/-- Why a block did not move. -/
inductive RingError where
  /-- Too little room; the block was dropped. -/
  | overrun
  /-- Too few samples; silence took their place. -/
  | underrun
  /-- The block claims more samples than it has. -/
  | invalidBlock (frames channels length : Nat)
  deriving DecidableEq, Repr

def RingError.text : RingError → String
  | overrun => "ring buffer overrun: block dropped"
  | underrun => "ring buffer underrun: silence substituted"
  | invalidBlock frames channels length =>
    s!"block of {frames} frames x {channels} channels does not fit a {length}-sample slice"

/-- The slots, the cursors and what was last recorded about them. -/
structure Ring where
  slots : Array Single
  writePos : UInt32
  readPos : UInt32
  /-- Samples in the ring after the last block. -/
  buffered : UInt32
  /-- That number in percent of the room. -/
  current : Single
  /-- The highest percentage since the start or the last reset. -/
  peak : Single
  /-- Blocks dropped since the ring was made, in a word that begins again when it is full. -/
  overruns : UInt64
  /-- Blocks silenced, likewise. -/
  underruns : UInt64
  deriving DecidableEq, Repr

namespace Ring

def minCapacity : Nat := 2

/-- The most slots of a ring, so that the distance of two cursors is never in doubt. -/
def maxCapacity : Nat := 1 <<< 31

/-- The slots of a ring that has to hold so many samples: the next power of two within the bounds. -/
def capacityFor (samples : Nat) : Nat :=
  1 <<< ((min (max samples minCapacity) maxCapacity - 1).log2 + 1)

def startingAt (origin : UInt32) (samples : Nat) : Ring :=
  { slots := Array.replicate (capacityFor samples) .zero, writePos := origin, readPos := origin,
    buffered := 0, current := .zero, peak := .zero, overruns := 0, underruns := 0 }

def make (samples : Nat) : Ring := startingAt 0 samples

def capacity (r : Ring) : Nat := r.slots.size

/-- The most samples that are ever in the ring. -/
def usable (r : Ring) : UInt32 := UInt32.ofNat (r.capacity - 1)

/-- Samples in the ring: the distance from the read cursor to the write cursor. -/
def occupied (r : Ring) : UInt32 := r.writePos - r.readPos

def free (r : Ring) : UInt32 := r.usable - r.occupied

def slot (r : Ring) (pos : UInt32) : Nat := pos.toNat % r.capacity

def load (r : Ring) (pos : UInt32) : Single := r.slots.getD (r.slot pos) .zero

def loadMany (r : Ring) (pos : UInt32) (n : Nat) : List Single :=
  (List.range n).map fun i => r.load (pos + UInt32.ofNat i)

def toList (r : Ring) : List Single := r.loadMany r.readPos r.occupied.toNat

def store (r : Ring) (pos : UInt32) (x : Single) : Ring :=
  { r with slots := r.slots.setIfInBounds (r.slot pos) x }

def storeMany (r : Ring) (pos : UInt32) : List Single → Ring
  | [] => r
  | x :: xs => (r.store pos x).storeMany (pos + 1) xs

def record (r : Ring) (used : UInt32) : Ring :=
  let percent := Single.percent used r.usable
  { r with buffered := used, current := percent,
           peak := if r.peak.lt percent then percent else r.peak }

/-- Appends `frames` frames of `channels` samples from the front of a block. -/
def write (r : Ring) (block : List Single) (frames channels : Nat) : Except RingError Unit × Ring :=
  let n := frames * channels
  if block.length < n then (.error (.invalidBlock frames channels block.length), r)
  else if r.free.toNat < n then
    (.error .overrun, { r with overruns := r.overruns + 1 }.record r.occupied)
  else
    let used := r.occupied
    let stored := r.storeMany r.writePos (block.take n)
    (.ok (), { stored with writePos := r.writePos + UInt32.ofNat n }.record (used + UInt32.ofNat n))

/-- Fills `frames` frames of `channels` samples at the front of a block, which is silenced as far when
too few samples are there. What is behind them stays as it was. -/
def read (r : Ring) (block : List Single) (frames channels : Nat) :
    Except RingError Unit × List Single × Ring :=
  let n := frames * channels
  if block.length < n then (.error (.invalidBlock frames channels block.length), block, r)
  else if r.occupied.toNat < n then
    (.error .underrun, List.replicate n .zero ++ block.drop n,
      { r with underruns := r.underruns + 1 }.record r.occupied)
  else
    (.ok (), r.loadMany r.readPos n ++ block.drop n,
      { r with readPos := r.readPos + UInt32.ofNat n }.record (r.occupied - UInt32.ofNat n))

def resetPeak (r : Ring) : Ring := { r with peak := .zero }

end Ring
end Patchbay
