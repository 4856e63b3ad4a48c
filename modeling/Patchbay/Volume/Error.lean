import Patchbay.Net.Fault
import Patchbay.Text.Quoted
import Patchbay.Wire.Status
import Patchbay.Wire.Command
/-!
# What goes wrong between a client and the volume server

`VolumeError` lists the causes, `message` words them, and `status` is what an error means on the wire.
-/

namespace Patchbay.Volume

open Patchbay.Net Patchbay.Wire

/-- How an answer fails to fit its request. -/
inductive Mismatch where
  /-- It carries the id of another request. -/
  | otherRequest (asked answered : UInt32)
  /-- Its command is not one of an answer. -/
  | notAnAnswer (command : Command)
  /-- Its payload is no report. -/
  | reportSize (command : Command) (size : Nat)
  /-- Its payload is not a whole number of records. -/
  | listingSize (size : Nat)
  /-- Any other way, in words. -/
  | described (text : String)
  deriving DecidableEq, Repr

/-- The wording of a mismatch. -/
def Mismatch.text : Mismatch → String
  | otherRequest asked answered => s!"request id {asked.toNat} answered as {answered.toNat}"
  | notAnAnswer c => c.name ++ " is not a reply"
  | reportSize c n => c.name ++ s!" reply has {n} payload bytes"
  | listingSize n => s!"client list of {n} bytes is not a whole number of records"
  | described t => t

/-- Causes of failure of clients and of the server. -/
inductive VolumeError where
  /-- The socket failed. -/
  | io (fault : Fault)
  /-- There is no connection. -/
  | notConnected
  /-- Connecting, sending or receiving took too long. -/
  | timeout
  /-- The peer closed in the middle of a message. -/
  | shortRead (expected got : Nat)
  /-- The peer stopped taking bytes in the middle of a message. -/
  | shortWrite (expected sent : Nat)
  /-- A received header may not be trusted. -/
  | invalidHeader (status : Status)
  /-- The server refused the request. -/
  | rejected (status : Status)
  /-- The answer does not fit the request. -/
  | unexpectedResponse (mismatch : Mismatch)
  /-- So many attempts to connect failed that no more are made. -/
  | reconnectExhausted (failures : Nat)
  /-- The table holds as many entries as it may. -/
  | tableFull (limit : Nat)
  /-- The listening socket could not be made. -/
  | bind (path : String) (fault : Fault)
  deriving DecidableEq, Repr

namespace VolumeError

def message : VolumeError → String
  | io f => "IPC I/O error: " ++ f.text
  | notConnected => "Not connected to the volume server"
  | timeout => "IPC operation timed out"
  | shortRead expected got => s!"Short read: got {got} of {expected} bytes"
  | shortWrite expected sent => s!"Short write: sent {sent} of {expected} bytes"
  | invalidHeader s => "Invalid message header: " ++ s.text
  | rejected s => "Request rejected by server: " ++ s.text
  | unexpectedResponse m => "Unexpected response: " ++ m.text
  | reconnectExhausted n => s!"Reconnect attempts exhausted after {n} failures"
  | tableFull n => s!"Client table full ({n} entries)"
  | bind path f => "Failed to bind " ++ Text.Quoted.text path ++ ": " ++ f.text

/-- What lies behind an error, in words. -/
def causes : VolumeError → List String
  | io f | bind _ f => [f.text]
  | _ => []

/-- The status that reports an error to a peer. -/
def status : VolumeError → Status
  | invalidHeader s | rejected s => s
  | tableFull _ => .serviceUnavailable
  | _ => .internalError

/-- A fault of a socket operation: both ways of running out of time are one. -/
def ofFault (f : Fault) : VolumeError :=
  match f.kind with
  | .timedOut | .wouldBlock => .timeout
  | _ => .io f

end VolumeError
end Patchbay.Volume
