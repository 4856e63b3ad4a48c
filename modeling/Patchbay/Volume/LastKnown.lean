import Patchbay.Single
/-!
# The last known volume

A client remembers the volume and mute flag of one process, and since when. It is a hint: the server's
roster is what counts.
-/

namespace Patchbay.Volume

/-- What was known of a process at some time, in nanoseconds. -/
structure Known where
  pid : UInt32
  volume : Single
  muted : Bool
  since : Nat
  deriving DecidableEq, Repr

/-- The memory of at most one process. -/
structure LastKnown where
  entry : Option Known
  deriving DecidableEq, Repr

namespace LastKnown

def empty : LastKnown := { entry := none }

/-- Remembers a value instead of what was known before. -/
def store (_ : LastKnown) (pid : UInt32) (volume : Single) (muted : Bool) (now : Nat) : LastKnown :=
  { entry := some { pid, volume, muted, since := now } }

/-- The value known of a process, however old. -/
def last (m : LastKnown) (pid : UInt32) : Option (Single × Bool) :=
  (m.entry.filter (·.pid = pid)).map fun k => (k.volume, k.muted)

/-- The value known of a process if it is younger than `ttl`. A value from the future has no age. -/
def fresh (m : LastKnown) (pid : UInt32) (now ttl : Nat) : Option (Single × Bool) :=
  (m.entry.filter fun k => k.pid = pid && now - k.since < ttl).map fun k => (k.volume, k.muted)

def forget (_ : LastKnown) : LastKnown := empty

def isKnown (m : LastKnown) : Bool := m.entry.isSome

variable {m : LastKnown} {pid : UInt32} {now ttl : Nat} {v : Single × Bool}

theorem last_eq_some_iff :
    m.last pid = some v ↔ ∃ k, m.entry = some k ∧ k.pid = pid ∧ (k.volume, k.muted) = v := by
  simp only [last, Option.map_eq_some_iff, Option.filter_eq_some_iff, decide_eq_true_eq, and_assoc]

theorem fresh_eq_some_iff : m.fresh pid now ttl = some v ↔
    ∃ k, m.entry = some k ∧ k.pid = pid ∧ now - k.since < ttl ∧ (k.volume, k.muted) = v := by
  simp only [fresh, Option.map_eq_some_iff, Option.filter_eq_some_iff, Bool.and_eq_true, decide_eq_true_eq, and_assoc]

theorem last_of_fresh (h : m.fresh pid now ttl = some v) : m.last pid = some v := by
  obtain ⟨k, hentry, hpid, -, hv⟩ := fresh_eq_some_iff.1 h
  exact last_eq_some_iff.2 ⟨k, hentry, hpid, hv⟩

end LastKnown
end Patchbay.Volume
