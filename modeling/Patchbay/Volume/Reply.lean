import Patchbay.Volume.Roster
/-!
# Answering requests

`dispatch` executes one request against the roster and says what to answer: a report of the entry that
the request was about, a listing, nothing (to a ping), or a refusal. `handle` also reads the request
from its payload.
-/

namespace Patchbay.Volume

open Patchbay.Wire

/-- The body of an answer. -/
inductive Reply where
  /-- A response with this payload. -/
  | response (payload : Bytes)
  /-- A refusal for this reason. -/
  | refusal (status : Status)
  deriving DecidableEq, Repr

namespace Reply

/-- A response that reports an entry. -/
def ofEntry (e : Entry) : Reply := .response (Report.make .ok e.volume e.muted).encode

def isRefusal : Reply → Bool
  | response _ => false
  | refusal _ => true

def command : Reply → Command
  | response _ => .response
  | refusal _ => .error

def payload : Reply → Bytes
  | response p => p
  | refusal s => (Report.refusal s).encode

/-- The whole message, for the request of this id. -/
def encode (r : Reply) (requestId : UInt32) : Bytes := encodeMessage r.command requestId r.payload

end Reply

namespace Roster

/-- Answers with the entry that an operation left behind, or refuses and changes nothing. -/
def answerWith (r : Roster) : Except Status (Entry × Roster) → Reply × Roster
  | .ok (e, r') => (.ofEntry e, r')
  | .error s => (.refusal s, r)

/-- Executes a request that arrived at `now`. -/
def dispatch (r : Roster) (request : Request) (now : UInt64) : Reply × Roster :=
  match request with
  | .register pid volume muted name =>
    match r.register pid volume muted name now with
    | .error e => (.refusal e.status, r)
    | .ok (_, r') =>
      match r'.find? pid with
      | some e => (.ofEntry e, r')
      | none => (.refusal .internalError, r')
  | .unregister pid =>
    match r.unregister pid with
    | some (e, r') => (.ofEntry e, r')
    | none => (.refusal .clientNotFound, r)
  | .getVolume pid | .getMute pid =>
    match r.find? pid with
    | some e => (.ofEntry e, r)
    | none => (.refusal .clientNotFound, r)
  | .setVolume pid volume => r.answerWith (r.setVolume pid volume)
  | .setMute pid muted => r.answerWith (r.setMute pid muted)
  | .listClients => (.response (Listing.encodeAll r.list), r)
  | .ping => (.response [], r)

def handle (r : Roster) (command : Command) (payload : Bytes) (now : UInt64) : Reply × Roster :=
  match Request.decode command payload with
  | .ok request => r.dispatch request now
  | .error s => (.refusal s, r)

end Roster
end Patchbay.Volume
