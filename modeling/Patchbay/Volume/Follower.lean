import Patchbay.Gain
import Patchbay.Volume.Client
/-!
# Following a volume

A follower asks the server again and again for the volume of one process and publishes it as the gain of
a route. While the server cannot be asked the gain stays as it was. When the client has given up
connecting, the follower lets the longest delay pass and then starts over.
-/

namespace Patchbay.Volume

open Patchbay.Net

/-- Who follows which process. -/
structure Follower where
  client : Client
  pid : UInt32
  /-- Nanoseconds between two questions. -/
  interval : Nat
  /-- Since when the client has given up connecting. -/
  exhaustedAt : Option Nat
  deriving DecidableEq, Repr

namespace Follower

variable {ω : Type}

/-- A follower that has not asked yet. It never asks without a pause. -/
def make (settings : VolumeSettings) (path : String) (pid : UInt32) (intervalMs : Nat) : Follower :=
  { client := .make settings path, pid, exhaustedAt := none
    interval := max intervalMs 1 * VolumeSettings.nanosPerMs }

/-- The gain after a reading. -/
def publish (g : Gain) (r : Reading) : Gain := if r.source = .unknown then g else g.set r.volume r.muted

/-- Starts over if the client gave up long enough ago. -/
def revive (f : Follower) (now : Nat) : Follower :=
  if f.client.backoff.mayAttempt then { f with exhaustedAt := none }
  else
    let since := f.exhaustedAt.getD now
    if f.client.settings.reconnectMax ≤ now - since then
      { f with client := f.client.resetBackoff, exhaustedAt := none }
    else { f with exhaustedAt := some since }

/-- Asks once and publishes the answer. -/
def step (n : Network ω) (f : Follower) (g : Gain) (w : ω) : Follower × Gain × ω :=
  let (reading, client, w) := f.client.getVolumeFast n f.pid w
  ({ f with client }.revive (n.now w), publish g reading, w)

/-- Asks so many times at most, with a pause before each, until the gain is as wanted. -/
def followRounds (n : Network ω) (pause : Nat → ω → ω) (wanted : Gain → Bool) :
    Nat → Follower → Gain → ω → Follower × Gain × ω
  | 0, f, g, w => (f, g, w)
  | rounds + 1, f, g, w =>
    if wanted g then (f, g, w)
    else
      let (f, g, w) := f.step n g (pause f.interval w)
      followRounds n pause wanted rounds f g w

/-- Asks for a span of time, or until the gain is as wanted. -/
def follow (n : Network ω) (pause : Nat → ω → ω) (span : Nat) (wanted : Gain → Bool) (f : Follower)
    (g : Gain) (w : ω) : Follower × Gain × ω :=
  followRounds n pause wanted (span / f.interval) f g w

def stop (n : Network ω) (f : Follower) (w : ω) : ω := (f.client.disconnect n w).2

end Follower
end Patchbay.Volume
