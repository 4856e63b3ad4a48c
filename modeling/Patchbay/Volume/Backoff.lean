/-!
# Waiting between attempts to connect

The wait starts at `base` and doubles with every failure until it reaches `longest`. After
`maxAttempts` failures in a row no attempt is made until the failures are forgotten. All times are
nanoseconds.
-/

namespace Patchbay.Volume

/-- How long to wait, and the failures since the last success. -/
structure Backoff where
  base : Nat
  longest : Nat
  maxAttempts : UInt32
  failures : UInt32
  deriving DecidableEq, Repr

namespace Backoff

/-- No failures so far. -/
def make (base longest : Nat) (maxAttempts : UInt32) : Backoff :=
  { base, longest, maxAttempts, failures := 0 }

/-- Whether another attempt is allowed. -/
def mayAttempt (b : Backoff) : Bool := b.failures < b.maxAttempts

/-- What the first wait is multiplied by after this many failures: a power of two while it fits a
32-bit word, and from then on the largest such word. -/
def factor (failures : Nat) : Nat := if failures ≤ 32 then 1 <<< (failures - 1) else UInt32.size - 1

/-- The wait before the next attempt: none before the first failure. -/
def delay (b : Backoff) : Nat :=
  if b.failures = 0 then 0 else min (b.base * factor b.failures.toNat) b.longest

/-- Counts a failure, as far as the counter goes. -/
def recordFailure (b : Backoff) : Backoff :=
  { b with failures := if b.failures.toNat + 1 < UInt32.size then b.failures + 1 else b.failures }

/-- Forgets the failures. -/
def reset (b : Backoff) : Backoff := { b with failures := 0 }

theorem delay_le_longest (b : Backoff) : b.delay ≤ b.longest := by
  unfold delay
  split
  · exact Nat.zero_le _
  · exact Nat.min_le_right ..

end Backoff
end Patchbay.Volume
