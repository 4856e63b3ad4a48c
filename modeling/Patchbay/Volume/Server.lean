import Patchbay.Volume.Frame
import Patchbay.Volume.Session
/-!
# The volume server

The server serves any number of connections from one roster. `serve` is what it does when one of them is
ready: it takes what has arrived, executes every whole frame in order, sends the replies, and gives the
connection up when the peer has closed, a write fails, or more replies wait than the peer may leave
unread. Frames that came before the end of a stream are executed too, but nobody is left to be answered.
The roster outlives the connections.
-/

namespace Patchbay.Volume

open Patchbay.Net Patchbay.Wire

/-- What a server has counted, in words that begin again when they are full. -/
structure Tallies where
  /-- Frames answered, refusals included. -/
  messagesHandled : UInt64
  /-- Frames answered with a refusal. -/
  errorReplies : UInt64
  /-- Frames that were turned away unread. -/
  protocolErrors : UInt64
  deriving DecidableEq, Repr

namespace Tallies

def zero : Tallies := { messagesHandled := 0, errorReplies := 0, protocolErrors := 0 }

def count (t : Tallies) (f : Frame) (r : Reply) : Tallies :=
  { messagesHandled := t.messagesHandled + 1
    errorReplies := t.errorReplies + if r.isRefusal then 1 else 0
    protocolErrors := t.protocolErrors + if f.isRejected then 1 else 0 }

end Tallies

/-- What the outside may know of a server, as it was last noted. -/
structure Stats where
  connections : Nat
  registered : Nat
  tallies : Tallies
  deriving DecidableEq, Repr

/-- The roster and the connections, which are known by number. -/
structure Server where
  roster : Roster
  sessions : List (Nat × Session)
  stats : Stats
  deriving DecidableEq, Repr

/-- What a pass over a connection found. -/
structure Arrival where
  bytes : Bytes
  /-- Nothing will follow: the peer has ended its stream or is gone. -/
  ended : Bool
  deriving DecidableEq, Repr

namespace Server

/-- A server with an empty roster and no connections. -/
def make (limit : Nat) : Server :=
  { roster := .empty limit, sessions := [], stats := { connections := 0, registered := 0, tallies := .zero } }

/-- What is under way on a connection. -/
def session? (s : Server) (connection : Nat) : Option Session := s.sessions.lookup connection

/-- Notes how many connections there are. -/
def countConnections (s : Server) : Server := { s with stats := { s.stats with connections := s.sessions.length } }

/-- Notes how many processes are registered. -/
def countRegistered (s : Server) : Server := { s with stats := { s.stats with registered := s.roster.size } }

/-- Notes what is under way on a connection. -/
def keep (s : Server) (connection : Nat) (session : Session) : Server :=
  { s with sessions := (connection, session) :: s.sessions.filter (·.1 ≠ connection) }

def close (s : Server) (connection : Nat) : Server :=
  { s with sessions := s.sessions.filter (·.1 ≠ connection) }.countConnections

def accept (s : Server) (connection : Nat) : Server := (s.keep connection .empty).countConnections

/-- Executes a frame that arrived at `now` and words the reply. -/
def execute (s : Server) (now : UInt64) (f : Frame) : Bytes × Server :=
  let (reply, roster) := f.handle s.roster now
  (reply.encode f.requestId,
    { s with roster, stats := { s.stats with tallies := s.stats.tallies.count f reply } })

/-- Executes frames in order. The date is read for each of them: `dates i` is that of the one at place `i`. -/
def executeAll (s : Server) (dates : Nat → UInt64) : List Frame → List Bytes × Server
  | [] => ([], s)
  | f :: rest =>
    let (reply, s) := s.execute (dates 0) f
    let (replies, s) := s.executeAll (fun i => dates (i + 1)) rest
    (reply :: replies, s)

variable {ω : Type}

/-- Serves a connection on which something arrived, or whose peer can take more. When bytes begin or cease to wait, the
system is then asked to tell, or no longer to tell, when the peer can take more. A connection for which it declines is
closed; that it does not decline is taken for granted here. -/
def serve (send : Socket ω) (connection : Nat) (a : Arrival) (dates : Nat → UInt64)
    (s : Server) (w : ω) : Server × ω :=
  match s.session? connection with
  | none => (s, w)
  | some session =>
    let (frames, inbound) := Frame.drain (session.inbound ++ a.bytes)
    let (replies, s) := s.executeAll dates frames
    let s := s.countRegistered
    if a.ended then (s.close connection, w)
    else match { session with inbound }.queueAll replies with
      | .error _ => (s.close connection, w)
      | .ok session =>
        match session.flush send w with
        | (.error _, _, w) => (s.close connection, w)
        | (.ok _, session, w) => (s.keep connection session, w)

end Server
end Patchbay.Volume
