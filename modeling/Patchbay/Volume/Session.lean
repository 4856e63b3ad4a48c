import Patchbay.Net.Operation
/-!
# The server's end of a connection

A session holds what has arrived and is not yet a whole frame, and the replies that the peer has not
taken yet. `queue` puts a reply behind the others unless too much is waiting already; `flush` offers what
waits to the socket until everything is taken or the socket takes no more.
-/

namespace Patchbay.Volume

open Patchbay.Net Patchbay.Wire

/-- What is under way on a connection. -/
structure Session where
  /-- Bytes that arrived and are not yet cut. -/
  inbound : Bytes
  /-- Bytes of replies that the socket has not taken. -/
  outbound : Bytes
  deriving DecidableEq, Repr

namespace Session

def empty : Session := { inbound := [], outbound := [] }

/-- The most bytes that may wait for a peer. -/
def maxOutbound : Nat := 1024 * 1024

/-- The fault of a peer for which too much would wait. -/
def overflow : Fault := .worded .outOfMemory "peer is not reading replies"

/-- Lets a message wait behind the others. -/
def queue (s : Session) (message : Bytes) : Except Fault Session :=
  if maxOutbound < s.outbound.length + message.length then .error overflow
  else .ok { s with outbound := s.outbound ++ message }

/-- Lets messages wait in order, as long as there is room. -/
def queueAll (s : Session) : List Bytes → Except Fault Session
  | [] => .ok s
  | m :: rest =>
    match s.queue m with
    | .error f => .error f
    | .ok s => s.queueAll rest

variable {ω : Type}

/-- Offers bytes until all are taken or no more are, and gives those that are left. -/
def drainTo (send : Socket ω) (waiting : Bytes) (w : ω) :
    Except Fault Unit × Bytes × ω :=
  if waiting = [] then (.ok (), [], w)
  else match send waiting w with
    | (.ok 0, w) => (.error (.bare .writeZero), waiting, w)
    | (.ok (n + 1), w) => drainTo send (waiting.drop (n + 1)) w
    | (.error f, w) => (if f.kind = .wouldBlock then .ok () else .error f, waiting, w)
  termination_by waiting.length
  decreasing_by
    have := List.length_pos_iff.2 ‹_›
    simp only [List.length_drop]
    omega

/-- Sends as much of what waits as the socket takes. A socket that would have to wait is no failure, and one that is
interrupted is tried again. -/
def flush (send : Socket ω) (s : Session) (w : ω) :
    Except Fault Unit × Session × ω :=
  let (r, outbound, w) := drainTo send s.outbound w
  (r, { s with outbound }, w)

theorem outbound_of_queue {s t : Session} {m : Bytes} (h : s.queue m = .ok t) :
    t.outbound = s.outbound ++ m ∧ t.inbound = s.inbound := by
  unfold queue at h
  split at h
  · simp at h
  · simp only [Except.ok.injEq] at h
    subst h
    exact ⟨rfl, rfl⟩

end Session
end Patchbay.Volume
