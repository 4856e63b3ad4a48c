import Patchbay.Net.Network
/-!
# A peer that answers by script

A world with one socket path and, behind it, a peer for trying out a client: it takes every request whole,
sends the bytes its script says and then closes the connection or keeps it. `network` is what a client
meets there.
-/

namespace Patchbay.Net

open Patchbay.Wire

/-- What the peer does with a request. -/
structure Script where
  reply : Bytes
  /-- Puts the id of the request into the header of the reply. -/
  echoesId : Bool
  /-- Closes the connection behind the reply. -/
  closes : Bool
  deriving DecidableEq, Repr

namespace Script

/-- Closes without an answer. -/
def silent : Script := { reply := [], echoesId := false, closes := true }

/-- Where the id stands in a header, and how wide it is. -/
def idOffset : Nat := 12

def idWidth : Nat := 4

/-- The bytes sent for a request. A reply too short for a header has no place for an id. -/
def answer (s : Script) (request : Bytes) : Bytes :=
  if s.echoesId && idOffset + idWidth ≤ s.reply.length then
    s.reply.take idOffset ++ (request.drop idOffset).take idWidth ++ s.reply.drop (idOffset + idWidth)
  else s.reply

end Script

/-- What is at the socket's path. -/
inductive Doorway where
  /-- No file. -/
  | absent
  /-- A socket that nobody listens on. -/
  | deserted
  | listening
  deriving DecidableEq, Repr

/-- The peer, its last connection, and the clock. -/
structure Peer where
  clock : Nat
  doorway : Doorway
  script : Script
  /-- How many connections were opened. -/
  opened : Nat
  /-- Whether the peer keeps its end of the last one open. -/
  isOpen : Bool
  /-- Bytes sent to the client and not yet read. -/
  unread : Bytes
  /-- The last request taken. -/
  received : Option Bytes
  deriving DecidableEq, Repr

namespace Peer

def make (doorway : Doorway) : Peer :=
  { clock := 0, doorway, script := .silent, opened := 0, isOpen := false, unread := [], received := none }

/-- Opens a connection, if somebody listens. -/
def connect (p : Peer) : Except Fault Nat × Peer :=
  match p.doorway with
  | .absent => (.error (.system .noEntry), p)
  | .deserted => (.error (.system .connectionRefused), p)
  | .listening => (.ok p.opened, { p with opened := p.opened + 1, isOpen := true, unread := [] })

/-- Takes a request and follows the script, unless the peer has closed its end. -/
def take (request : Bytes) (p : Peer) : Except Fault Nat × Peer :=
  if p.isOpen then
    (.ok request.length,
      { p with received := some request, unread := p.unread ++ p.script.answer request,
               isOpen := !p.script.closes })
  else (.error (.system .brokenPipe), p)

/-- Gives out bytes on the way to the client. Without any, a peer that keeps its end open lets the
client wait until it gives up. -/
def give (count : Nat) (p : Peer) : Except Fault Bytes × Peer :=
  match p.unread with
  | [] => if p.isOpen then (.error (.bare .wouldBlock), p) else (.ok [], p)
  | bs => (.ok (bs.take count), { p with unread := bs.drop count })

/-- The end of the client is closed. -/
def hangUp (p : Peer) : Peer := { p with isOpen := false, unread := [] }

/-- Sends bytes unasked. -/
def push (bs : Bytes) (p : Peer) : Peer := if p.isOpen then { p with unread := p.unread ++ bs } else p

/-- Closes the peer's end. What was sent can still be read. -/
def closeEnd (p : Peer) : Peer := { p with isOpen := false }

/-- The listener goes away and leaves the file, if there is one. -/
def desert (p : Peer) : Peer :=
  { p with doorway := if p.doorway = .absent then .absent else .deserted }

theorem take_final (request : Bytes) (p : Peer) (f : Fault) (h : (p.take request).1 = .error f) :
    f.kind ≠ .interrupted := by
  unfold take at h
  split at h
  all_goals cases h
  decide

theorem give_final (count : Nat) (p : Peer) (f : Fault) (h : (p.give count).1 = .error f) :
    f.kind ≠ .interrupted := by
  unfold give at h
  repeat' split at h
  all_goals cases h
  decide

def network : Network Peer where
  now p := p.clock
  connect _ p := p.connect
  write _ := .final take take_final
  read _ := .final give give_final
  close _ p := p.hangUp

end Peer
end Patchbay.Net
