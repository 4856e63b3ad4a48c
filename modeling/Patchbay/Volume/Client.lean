import Patchbay.Net.Address
import Patchbay.Settings.Basic
import Patchbay.Volume.Backoff
import Patchbay.Volume.Exchange
import Patchbay.Volume.LastKnown
/-!
# The volume client

A client holds at most one connection to the server, opens it when a request needs it, and drops it when
an exchange leaves the stream in the middle of a message; a refusal does not. Failed attempts to connect
are spaced out by a `Backoff`. Every value that the server reports is remembered, and `getVolumeFast`
serves what is remembered while it is young, and when the server cannot be asked.

Each operation maps the client and the world to a result and to both as they are afterwards.
-/

namespace Patchbay.Volume

open Patchbay.Net Patchbay.Wire

/-- A client and what it remembers. -/
structure Client where
  settings : VolumeSettings
  /-- Where the server's socket is. -/
  path : String
  connection : Option Nat
  /-- The id of the next request. -/
  nextId : UInt32
  known : LastKnown
  backoff : Backoff
  /-- After a failure to connect, the time before which no request tries again. -/
  retryAt : Option Nat
  /-- How often a value was asked for because none young enough was known. -/
  refreshes : UInt64
  deriving DecidableEq, Repr

/-- Where a quickly served value came from. -/
inductive Source where
  /-- It was known and young enough. -/
  | cache
  /-- The server was asked. -/
  | server
  /-- The server could not be asked, and an older value was known. -/
  | stale
  /-- The server could not be asked and nothing was known: unity gain. -/
  | unknown
  deriving DecidableEq, Repr

/-- A quickly served value. -/
structure Reading where
  volume : Single
  muted : Bool
  source : Source
  deriving DecidableEq, Repr

/-- Whether the value may be out of date because the server could not be asked. -/
def Reading.isDegraded (r : Reading) : Bool :=
  match r.source with
  | .stale | .unknown => true
  | .cache | .server => false

namespace Client

variable {ω : Type}

/-- A client that is not connected. -/
def make (settings : VolumeSettings) (path : String) : Client :=
  { settings, path, connection := none, nextId := 1, known := .empty
    backoff := .make settings.reconnectBase settings.reconnectMax settings.reconnectMaxAttempts
    retryAt := none, refreshes := 0 }

/-- Whether the client is connected. -/
def isConnected (c : Client) : Bool := c.connection.isSome

/-- Opens a connection to the server. -/
def openConnection (n : Network ω) (c : Client) (w : ω) : Except VolumeError Nat × ω :=
  if !Address.fits c.path then
    (.error (.io (.worded .invalidInput "path must be shorter than SUN_LEN")), w)
  else match n.connect c.path w with
    | (.ok connection, w) => (.ok connection, w)
    | (.error f, w) => (.error (.ofFault f), w)

/-- Connects, unless the client is connected or has given up. -/
def connect (n : Network ω) (c : Client) (w : ω) : Except VolumeError Unit × Client × ω :=
  if c.isConnected then (.ok (), c, w)
  else if !c.backoff.mayAttempt then
    (.error (.reconnectExhausted c.backoff.failures.toNat), c, w)
  else match c.openConnection n w with
    | (.ok connection, w) =>
      (.ok (), { c with connection := some connection, backoff := c.backoff.reset, retryAt := none }, w)
    | (.error e, w) =>
      let backoff := c.backoff.recordFailure
      (.error e, { c with backoff, retryAt := some (n.now w + backoff.delay) }, w)

/-- Closes the connection, if there is one. -/
def disconnect (n : Network ω) (c : Client) (w : ω) : Client × ω :=
  match c.connection with
  | some connection => ({ c with connection := none }, n.close connection w)
  | none => (c, w)

/-- Forgets the failures to connect. -/
def resetBackoff (c : Client) : Client := { c with backoff := c.backoff.reset, retryAt := none }

/-- Whether it is too early to try to connect again. -/
def mustWait (c : Client) (now : Nat) : Bool :=
  match c.retryAt with
  | some t => now < t
  | none => false

/-- Connects for a request, unless it is too early for that. -/
def ensureConnected (n : Network ω) (c : Client) (w : ω) : Except VolumeError Unit × Client × ω :=
  if c.isConnected then (.ok (), c, w)
  else if c.mustWait (n.now w) then (.error .notConnected, c, w)
  else c.connect n w

/-- The id after this one. Zero is no id. -/
def succId (id : UInt32) : UInt32 := if id + 1 = 0 then 1 else id + 1

/-- Whether an error leaves the stream between two messages. -/
def keepsConnection : VolumeError → Bool
  | .rejected _ => true
  | _ => false

/-- Exchanges a request on the connection there is. An error that leaves the stream in the middle of a
message drops the connection. -/
def send (n : Network ω) (request : Request) (c : Client) (w : ω) :
    Except VolumeError Answer × Client × ω :=
  let id := c.nextId
  let c := { c with nextId := succId id }
  match c.connection with
  | none => (.error .notConnected, c, w)
  | some connection =>
    match exchange n connection request id w with
    | (.ok answer, w) => (.ok answer, c, w)
    | (.error e, w) =>
      if keepsConnection e then (.error e, c, w)
      else let (c, w) := c.disconnect n w; (.error e, c, w)

/-- Exchanges a request, connecting first if need be. -/
def request (n : Network ω) (request : Request) (c : Client) (w : ω) :
    Except VolumeError Answer × Client × ω :=
  match c.ensureConnected n w with
  | (.error e, c, w) => (.error e, c, w)
  | (.ok _, c, w) => c.send n request w

/-- Exchanges a request that is answered with a report. -/
def requestReport (n : Network ω) (request : Request) (c : Client) (w : ω) :
    Except VolumeError Report × Client × ω :=
  match c.request n request w with
  | (.error e, c, w) => (.error e, c, w)
  | (.ok answer, c, w) =>
    match Report.decode answer.payload with
    | .ok report => (.ok report, c, w)
    | .error _ =>
      (.error (.unexpectedResponse (.reportSize request.command answer.payload.length)), c, w)

/-- Exchanges a request about a process and remembers the value in the answer. -/
def requestValue (n : Network ω) (request : Request) (pid : UInt32) (c : Client) (w : ω) :
    Except VolumeError (Single × Bool) × Client × ω :=
  match c.requestReport n request w with
  | (.error e, c, w) => (.error e, c, w)
  | (.ok report, c, w) =>
    (.ok (report.volume, report.muted),
      { c with known := c.known.store pid report.volume report.muted (n.now w) }, w)

/-- Registers a process. -/
def register (n : Network ω) (pid : UInt32) (volume : Single) (muted : Bool) (name : String)
    (c : Client) (w : ω) : Except VolumeError (Single × Bool) × Client × ω :=
  c.requestValue n (.register pid volume muted name) pid w

/-- Takes a process out of the server's roster, and forgets it. -/
def unregister (n : Network ω) (pid : UInt32) (c : Client) (w : ω) :
    Except VolumeError Unit × Client × ω :=
  match c.requestReport n (.unregister pid) w with
  | (.error e, c, w) => (.error e, c, w)
  | (.ok _, c, w) =>
    (.ok (), if (c.known.last pid).isSome then { c with known := c.known.forget } else c, w)

/-- Asks for the volume and mute flag of a process. -/
def getVolume (n : Network ω) (pid : UInt32) (c : Client) (w : ω) :
    Except VolumeError (Single × Bool) × Client × ω :=
  c.requestValue n (.getVolume pid) pid w

/-- Asks whether a process is muted. The answer also tells its volume. -/
def getMute (n : Network ω) (pid : UInt32) (c : Client) (w : ω) :
    Except VolumeError (Single × Bool) × Client × ω :=
  c.requestValue n (.getMute pid) pid w

/-- Changes the volume of a process. -/
def setVolume (n : Network ω) (pid : UInt32) (volume : Single) (c : Client) (w : ω) :
    Except VolumeError (Single × Bool) × Client × ω :=
  c.requestValue n (.setVolume pid volume) pid w

/-- Mutes a process or lifts that. -/
def setMute (n : Network ω) (pid : UInt32) (muted : Bool) (c : Client) (w : ω) :
    Except VolumeError (Single × Bool) × Client × ω :=
  c.requestValue n (.setMute pid muted) pid w

/-- Asks for all registered processes. -/
def listClients (n : Network ω) (c : Client) (w : ω) :
    Except VolumeError (List Listing) × Client × ω :=
  match c.request n .listClients w with
  | (.error e, c, w) => (.error e, c, w)
  | (.ok answer, c, w) =>
    match Listing.decodeAll answer.payload with
    | .ok listings => (.ok listings, c, w)
    | .error _ => (.error (.unexpectedResponse (.listingSize answer.payload.length)), c, w)

/-- Asks whether the server answers. -/
def ping (n : Network ω) (c : Client) (w : ω) : Except VolumeError Unit × Client × ω :=
  match c.request n .ping w with
  | (.error e, c, w) => (.error e, c, w)
  | (.ok _, c, w) => (.ok (), c, w)

/-- The volume of a process without waiting for more than one exchange. A value young enough is served
without asking. Otherwise the server is asked, and if that fails an older value is served, or unity
gain if none is known. -/
def getVolumeFast (n : Network ω) (pid : UInt32) (c : Client) (w : ω) : Reading × Client × ω :=
  match c.known.fresh pid (n.now w) c.settings.cacheTtl with
  | some (volume, muted) => ({ volume, muted, source := .cache }, c, w)
  | none =>
    match { c with refreshes := c.refreshes + 1 }.getVolume n pid w with
    | (.ok (volume, muted), c, w) => ({ volume, muted, source := .server }, c, w)
    | (.error _, c, w) =>
      match c.known.last pid with
      | some (volume, muted) => ({ volume, muted, source := .stale }, c, w)
      | none => ({ volume := .one, muted := false, source := .unknown }, c, w)

theorem succId_ne_zero (id : UInt32) : succId id ≠ 0 := by
  unfold succId
  split
  · decide
  · assumption

end Client
end Patchbay.Volume
