import Patchbay.Single
/-!
# Volume and mute

`Gain.scale` applies a volume and a mute flag to a block of samples. A `Gain` is the pair that the
control side publishes and that every block on its way into the ring is scaled with. Published volumes
are moved into the unit interval, and what is not a number is not published.
-/

namespace Patchbay

/-- Volume and mute flag as last published. -/
structure Gain where
  volume : Single
  muted : Bool
  deriving DecidableEq, Repr

namespace Gain

/-- A block scaled by a volume, or silenced. Unity gain leaves every pattern as it is, and a volume that
is not a number counts as unity. -/
def scale (volume : Single) (muted : Bool) (samples : List Single) : List Single :=
  if muted then samples.map fun _ => .zero
  else
    let volume := if volume.isNaN then .one else volume.clampUnit
    if volume.numEq .one then samples else samples.map (·.mul volume)

def make (volume : Single) (muted : Bool) : Gain := { volume := volume.clampUnit, muted }

def unity : Gain := make .one false

/-- Publishes a volume, unless it is not a number. -/
def setVolume (g : Gain) (volume : Single) : Gain :=
  if volume.isNaN then g else { g with volume := volume.clampUnit }

def setMuted (g : Gain) (muted : Bool) : Gain := { g with muted }

def set (g : Gain) (volume : Single) (muted : Bool) : Gain := (g.setVolume volume).setMuted muted

def apply (g : Gain) (samples : List Single) : List Single := scale g.volume g.muted samples

@[simp] theorem length_scale (volume : Single) (muted : Bool) (samples : List Single) :
    (scale volume muted samples).length = samples.length := by
  unfold scale
  cases muted
  · simp only [Bool.false_eq_true, if_false]
    generalize (if volume.isNaN = true then Single.one else volume.clampUnit) = v
    split <;> simp
  · simp

@[simp] theorem length_apply (g : Gain) (samples : List Single) :
    (g.apply samples).length = samples.length :=
  length_scale ..

end Gain
end Patchbay
