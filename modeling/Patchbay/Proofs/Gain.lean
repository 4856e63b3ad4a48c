import Patchbay.Gain
/-!
# What a gain holds after any publications

A gain is written for as long as a route runs, and read for every block. Whatever was published, its volume is the
latest number among the published volumes, moved into the unit interval, and its mute flag is the latest flag. Only
the volume that a gain is made with can be no number: it is not looked at as later ones are, and it stays until the
first number is published (`volume_is_latest_number`). A block that is scaled is silenced if the gain is muted, left
as it is if the volume is one or more or no number, and multiplied by the volume otherwise.
-/

namespace Patchbay

namespace Single

theorem isNaN_of_inUnit {x : Single} (h : x.inUnit = true) : x.isNaN = false := by
  simp only [inUnit, le, Bool.and_eq_true, Bool.not_eq_true'] at h
  exact h.2.1.1

/-- Clamping makes no number of what is none. -/
theorem isNaN_clampUnit (x : Single) : x.clampUnit.isNaN = x.isNaN := by
  cases h : x.isNaN with
  | true => simp [clampUnit, lt, h]
  | false => exact isNaN_of_inUnit (inUnit_clampUnit h)

/-- A clamped number is one if it was not less. -/
theorem numEq_clampUnit_one_iff {x : Single} : x.clampUnit.numEq one = true ↔ one.le x = true := by
  have hone : one.isNaN = false := by decide
  have hranks : zero.rank ≤ one.rank := by decide
  unfold clampUnit
  split
  · rename_i hneg
    simp only [lt, Bool.and_eq_true, decide_eq_true_eq] at hneg
    refine iff_of_false (by decide) fun hle => ?_
    simp only [le, Bool.and_eq_true, decide_eq_true_eq] at hle
    omega
  · split
    · rename_i hover
      simp only [lt, Bool.and_eq_true, decide_eq_true_eq] at hover
      exact iff_of_true (by decide) (by simp [le, hone, hover.1.2, Int.le_of_lt hover.2])
    · rename_i hover
      simp only [numEq, le, lt, hone, Bool.and_eq_true, Bool.not_eq_true', decide_eq_true_eq, not_and, Bool.not_false,
        and_true, true_and] at hover ⊢
      refine and_congr_right fun hx => ?_
      have := hover hx
      omega

theorem inUnit_clampUnit_iff {x : Single} : x.clampUnit.inUnit = true ↔ x.isNaN = false :=
  ⟨fun h => x.isNaN_clampUnit ▸ isNaN_of_inUnit h, inUnit_clampUnit⟩

end Single

namespace Gain

/-! ## What scaling does to a block -/

/-- Muted, every sample is silence, whatever the volume. -/
theorem scale_muted (volume : Single) (samples : List Single) :
    scale volume true samples = List.replicate samples.length .zero := List.map_const' ..

/-- At a volume of one or more, or of no number, every sample is left bit for bit. -/
theorem scale_of_one_le {volume : Single} (h : volume.isNaN = true ∨ Single.one.le volume = true)
    (samples : List Single) : scale volume false samples = samples := by
  rw [scale, if_neg Bool.false_ne_true]
  refine if_pos ?_
  rcases h with hnan | hle
  · rw [if_pos hnan]
    decide
  · have hnumber : volume.isNaN = false := by
      simp only [Single.le, Bool.and_eq_true, Bool.not_eq_true'] at hle
      exact hle.1.2
    rw [hnumber, if_neg Bool.false_ne_true]
    exact Single.numEq_clampUnit_one_iff.2 hle

/-- At a volume below one, every sample is multiplied. -/
theorem scale_of_lt_one {volume : Single} (h : volume.lt .one = true) (samples : List Single) :
    scale volume false samples = samples.map (·.mul volume.clampUnit) := by
  simp only [Single.lt, Bool.and_eq_true, Bool.not_eq_true', decide_eq_true_eq] at h
  rw [scale, if_neg Bool.false_ne_true, h.1.1, if_neg Bool.false_ne_true]
  refine if_neg fun hone => ?_
  have hle := Single.numEq_clampUnit_one_iff.1 hone
  simp only [Single.le, Bool.and_eq_true, decide_eq_true_eq] at hle
  omega

theorem apply_of_muted {g : Gain} (h : g.muted = true) (samples : List Single) :
    g.apply samples = List.replicate samples.length .zero := by
  rw [apply, h, scale_muted]

theorem apply_unity (samples : List Single) : unity.apply samples = samples :=
  scale_of_one_le (.inr (by decide)) samples

/-! ## Publications -/

/-- What the control side may do to a gain. -/
inductive Publication where
  | volume (volume : Single)
  | muted (muted : Bool)
  | both (volume : Single) (muted : Bool)
  deriving DecidableEq, Repr

namespace Publication

/-- The volume that is published, if there is one and it is a number. -/
def number? : Publication → Option Single
  | volume v | both v _ => if v.isNaN then none else some v
  | muted _ => none

/-- The mute flag that is published, whatever volume comes with it. -/
def flag? : Publication → Option Bool
  | volume _ => none
  | muted m | both _ m => some m

theorem isNaN_of_number? {p : Publication} {v : Single} (h : p.number? = some v) : v.isNaN = false := by
  cases p with
  | volume w | both w m =>
    rw [number?] at h
    split at h
    · cases h
    · cases h
      exact Bool.eq_false_iff.2 ‹_›
  | muted m => cases h

end Publication

def publish (g : Gain) : Publication → Gain
  | .volume v => g.setVolume v
  | .muted m => g.setMuted m
  | .both v m => g.set v m

/-- One publication after the other. -/
def publishAll (g : Gain) (ps : List Publication) : Gain := ps.foldl publish g

section Publishing
variable (g : Gain) (p : Publication) (ps : List Publication)

/-- What every publication either leaves alone or replaces is what the latest replaced it with. -/
theorem publishAll_latest {α : Type} (view : Gain → α) (gives : Publication → Option α)
    (hstep : ∀ g p, view (publish g p) = (gives p).getD (view g)) :
    view (g.publishAll ps) = (ps.filterMap gives).getLastD (view g) := by
  induction ps generalizing g with
  | nil => rfl
  | cons p ps ih =>
    refine (ih (g.publish p)).trans ?_
    rw [hstep, List.filterMap_cons]
    cases gives p with
    | none => rfl
    | some a => exact List.getLastD_cons.symm

theorem volume_publish : (g.publish p).volume = (p.number?.map Single.clampUnit).getD g.volume := by
  have hset (v : Single) :
      (g.setVolume v).volume = ((if v.isNaN then none else some v).map Single.clampUnit).getD g.volume := by
    rw [setVolume]
    split <;> rfl
  cases p with
  | volume v => exact hset v
  | muted m => rfl
  | both v m => exact hset v

theorem muted_publish : (g.publish p).muted = p.flag?.getD g.muted := by
  cases p with
  | volume v =>
    show (g.setVolume v).muted = g.muted
    rw [setVolume]
    split <;> rfl
  | muted m => rfl
  | both v m => rfl

end Publishing

/-- The latest number, or else the first volume, is no number only if nothing but the first volume counts. -/
theorem isNaN_latest_iff (v : Single) (ps : List Publication) :
    ((ps.filterMap Publication.number?).getLastD v).isNaN = true ↔
      v.isNaN = true ∧ ps.filterMap Publication.number? = [] := by
  rcases List.eq_nil_or_concat (ps.filterMap Publication.number?) with hnone | ⟨before, x, hsome⟩
  · simp [hnone]
  · have hx : x ∈ ps.filterMap Publication.number? := by simp [hsome]
    obtain ⟨p, -, hp⟩ := List.mem_filterMap.1 hx
    simp [hsome, Publication.isNaN_of_number? hp]

/-- Made with any volume and flag and after any publications, a gain has the latest flag, and for its volume the
latest number, or else the first volume, clamped. That is a number of the unit interval, unless the first volume was
none and no number has been published since. -/
theorem volume_is_latest_number (v : Single) (m : Bool) (ps : List Publication) :
    let g := (make v m).publishAll ps
    let numbers := ps.filterMap Publication.number?
    g.volume = (numbers.getLastD v).clampUnit ∧ g.muted = (ps.filterMap Publication.flag?).getLastD m ∧
    (g.volume.isNaN = true ↔ v.isNaN = true ∧ numbers = []) ∧
    (Single.zero.le g.volume = true ∧ g.volume.le .one = true ↔ v.isNaN = false ∨ numbers ≠ []) := by
  intro g numbers
  have hvolume : g.volume = (numbers.getLastD v).clampUnit :=
    calc g.volume
        = (ps.filterMap fun p => p.number?.map Single.clampUnit).getLastD v.clampUnit :=
          publishAll_latest _ ps _ _ volume_publish
      _ = (numbers.map Single.clampUnit).getLastD v.clampUnit := by rw [List.map_filterMap]
      _ = (numbers.getLastD v).clampUnit := List.getLastD_map
  have hnan : g.volume.isNaN = true ↔ v.isNaN = true ∧ numbers = [] := by
    rw [hvolume, Single.isNaN_clampUnit]
    exact isNaN_latest_iff v ps
  refine ⟨hvolume, publishAll_latest _ ps _ _ muted_publish, hnan, ?_⟩
  have hunit : Single.zero.le g.volume = true ∧ g.volume.le .one = true ↔ g.volume.inUnit = true := by
    rw [Single.inUnit, Bool.and_eq_true]
  rw [hunit, hvolume, Single.inUnit_clampUnit_iff, ← Single.isNaN_clampUnit, ← hvolume, ← Bool.not_eq_true, hnan,
    Classical.not_and_iff_not_or_not, Bool.not_eq_true]

/-- A gain that is made with what is no number holds no number. -/
theorem gain_may_start_as_no_number :
    ¬ ∀ (v : Single) (m : Bool) (ps : List Publication), ((make v m).publishAll ps).volume.isNaN = false :=
  fun h => absurd (h ⟨0x7fc00000⟩ false []) (by decide)

end Gain
end Patchbay
