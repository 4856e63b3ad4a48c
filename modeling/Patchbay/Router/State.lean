/-!
# Where a router is in its life

A router goes from `stopped` through `starting` to `running` and through `stopping` back; a start that
fails passes through `error`. The state is one byte that the audio callbacks look at.
-/

namespace Patchbay.Router

inductive State where
  | stopped
  | starting
  | running
  | stopping
  | error
  deriving DecidableEq, Repr, Inhabited

namespace State

def code : State → UInt8
  | stopped => 0
  | starting => 1
  | running => 2
  | stopping => 3
  | error => 4

/-- The state of a byte; bytes that no state has count as stopped. -/
def ofCode (b : UInt8) : State :=
  match b.toNat with
  | 1 => starting
  | 2 => running
  | 3 => stopping
  | 4 => error
  | _ => stopped

/-- Whether the callbacks move samples. They already do while the route starts, so that the ring fills
up before the sink plays. -/
def isLive : State → Bool
  | starting | running => true
  | _ => false

def text : State → String
  | stopped => "stopped"
  | starting => "starting"
  | running => "running"
  | stopping => "stopping"
  | error => "error"

@[simp] theorem ofCode_code (s : State) : ofCode s.code = s := by
  cases s <;> rfl

end State
end Patchbay.Router
