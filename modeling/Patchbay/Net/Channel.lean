import Patchbay.Net.Operation
/-!
# A connection in memory

A channel has a client's end and a listener's end. What a client sends is kept until the listener takes
it, without limit; the other way there is room for so many bytes that the client has not read. Either end
learns that the other is gone when it next reads or writes.
-/

namespace Patchbay.Net

open Patchbay.Wire

/-- A connection between a client and a listener. -/
structure Channel where
  /-- The number of the listener. -/
  listener : Nat
  /-- Bytes on the way to the listener. -/
  toListener : Bytes
  /-- Bytes on the way to the client. -/
  toClient : Bytes
  /-- Whether the client may still send. -/
  sends : Bool
  /-- Whether the client still takes bytes. -/
  takes : Bool
  /-- Whether the listener keeps its end. -/
  isServed : Bool
  deriving DecidableEq, Repr

namespace Channel

def make (listener : Nat) : Channel :=
  { listener, toListener := [], toClient := [], sends := true, takes := true, isServed := true }

/-- The most bytes on the way to a client. -/
def room : Nat := 212864

def send (bs : Bytes) (c : Channel) : Except Fault Nat × Channel :=
  if bs = [] then (.ok 0, c)
  else if c.sends && c.isServed then (.ok bs.length, { c with toListener := c.toListener ++ bs })
  else (.error (.system .brokenPipe), c)

/-- The client reads at most so many bytes. When there are none it learns that none will come, or has to
wait. -/
def receive (count : Nat) (c : Channel) : Except Fault Bytes × Channel :=
  match c.toClient with
  | [] => if c.isServed && c.takes then (.error (.bare .wouldBlock), c) else (.ok [], c)
  | bs => (.ok (bs.take count), { c with toClient := bs.drop count })

/-- The listener sends as much as there is room for. -/
def deliver (bs : Bytes) (c : Channel) : Except Fault Nat × Channel :=
  let count := min bs.length (room - c.toClient.length)
  if !c.takes then (.error (.system .brokenPipe), c)
  else if count = 0 then (.error (.bare .wouldBlock), c)
  else (.ok count, { c with toClient := c.toClient ++ bs.take count })

theorem send_final (bs : Bytes) (c : Channel) (f : Fault) (h : (c.send bs).1 = .error f) :
    f.kind ≠ .interrupted := by
  unfold send at h
  repeat' split at h
  all_goals cases h
  decide

theorem receive_final (count : Nat) (c : Channel) (f : Fault) (h : (c.receive count).1 = .error f) :
    f.kind ≠ .interrupted := by
  unfold receive at h
  repeat' split at h
  all_goals cases h
  decide

theorem deliver_final (bs : Bytes) (c : Channel) (f : Fault) (h : (c.deliver bs).1 = .error f) :
    f.kind ≠ .interrupted := by
  unfold deliver at h
  dsimp only at h
  repeat' split at h
  all_goals cases h
  all_goals decide

/-- The listener's socket. -/
def socket : Socket Channel := .final deliver deliver_final

def endSending (c : Channel) : Channel := { c with sends := false }

def endTaking (c : Channel) : Channel := { c with takes := false }

def hangUp (c : Channel) : Channel := c.endSending.endTaking

/-- The listener is gone. What it sent can still be read. -/
def drop (c : Channel) : Channel := { c with toListener := [], isServed := false }

end Channel
end Patchbay.Net
