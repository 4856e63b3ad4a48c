import Patchbay.Files.Tree
import Patchbay.Net.Address
import Patchbay.Net.Channel
import Patchbay.Net.Network
import Patchbay.Settings.Place
import Patchbay.Volume.Server
/-!
# A host in memory

A host has a file tree, connections, and volume servers, each with a socket in the tree. `bind` makes a
server, `run` lets it work and `shut` ends it. A server that works does so at once: each act of a client
is followed by one pass over its connection. What clients did before `run` waits, and is then seen in one
pass per connection, in the order in which they connected.

Of the servers one is in service at a time: `start` and `launch` put a new one there and end the one
before, as soon as the new one works.
-/

namespace Patchbay.Volume

open Patchbay.Files Patchbay.Net Patchbay.Wire

/-- A server and its socket. -/
structure Station where
  /-- The number that its connections and its socket bear. -/
  number : Nat
  /-- The path of the socket. -/
  path : String
  isRunning : Bool
  server : Server
  deriving DecidableEq, Repr

/-- Files, servers, connections and clocks. -/
structure Host where
  tree : Tree
  stations : List Station
  /-- How many servers were bound. -/
  bound : Nat
  /-- The server in service. -/
  active : Option Nat
  /-- The server that waits to be launched. -/
  prepared : Option Nat
  /-- The connections by number. -/
  channels : List Channel
  /-- The clients' clock in nanoseconds. -/
  clock : Nat
  /-- The system's clock in nanoseconds. -/
  systemClock : Nat
  /-- Milliseconds since the epoch. -/
  date : UInt64
  deriving DecidableEq, Repr

namespace Host

def make (tree : Tree) : Host :=
  { tree, stations := [], bound := 0, active := none, prepared := none, channels := [], clock := 0
    systemClock := 0, date := 0 }

/-- The server of a number, if it is still there. -/
def station? (h : Host) (number : Nat) : Option Station := h.stations.find? (·.number = number)

def setStation (h : Host) (s : Station) : Host :=
  { h with stations := h.stations.map fun t => if t.number = s.number then s else t }

def setChannel (h : Host) (connection : Nat) (c : Channel) : Host :=
  { h with channels := h.channels.set connection c }

/-- Lets the server that a connection leads to look at it, if that server works. -/
def attend (h : Host) (connection : Nat) : Host :=
  match h.channels[connection]? with
  | none => h
  | some c =>
    match h.station? c.listener with
    | none => h
    | some s =>
      if s.isRunning then
        let arrival : Arrival := { bytes := c.toListener, ended := !c.sends }
        let (server, c) :=
          s.server.serve Channel.socket connection arrival (fun _ => h.date) { c with toListener := [] }
        let c := if (server.session? connection).isSome then c else c.drop
        (h.setStation { s with server }).setChannel connection c
      else h

/-- Lets a server take a connection and look at it. -/
def welcome (h : Host) (s : Station) (connection : Nat) : Host :=
  (h.setStation { s with server := s.server.accept connection }).attend connection

/-- The place of an address. Bare names have places of their own, which no path leads to. -/
def socketPlace (t : Tree) (address : String) (find : Tree → String → Except Fault Place) :
    Except Fault Place :=
  if Address.isBare address then .ok [address] else find t (Address.path address)

/-- Connects to the server whose socket has an address. -/
def connect (address : String) (h : Host) : Except Fault Nat × Host :=
  match socketPlace h.tree address Tree.locate with
  | .error f => (.error f, h)
  | .ok place =>
    match h.tree.item? place with
    | none => (.error (.system (if Address.isBare address then .connectionRefused else .noEntry)), h)
    | some (.socket (some number)) =>
      match h.station? number with
      | none => (.error (.system .connectionRefused), h)
      | some s =>
        let connection := h.channels.length
        let h := { h with channels := h.channels ++ [.make number] }
        (.ok connection, if s.isRunning then h.welcome s connection else h)
    | some _ => (.error (.system .connectionRefused), h)

/-- Lets a client act on a connection, and the server look at it. -/
def act {α : Type} (connection : Nat) (f : Channel → Except Fault α × Channel) (h : Host) :
    Except Fault α × Host :=
  match h.channels[connection]? with
  | none => (.error (.bare .notConnected), h)
  | some c => let (r, c) := f c; (r, (h.setChannel connection c).attend connection)

/-- Changes a client's end of a connection, and lets the server look at it. -/
def turn (connection : Nat) (f : Channel → Channel) (h : Host) : Host :=
  (act connection (fun c => (.ok (), f c)) h).2

theorem act_final {α : Type} {f : Channel → Except Fault α × Channel} (connection : Nat)
    (hf : ∀ c e, (f c).1 = .error e → e.kind ≠ .interrupted) (h : Host) (e : Fault)
    (herror : (act connection f h).1 = .error e) : e.kind ≠ .interrupted := by
  unfold act at herror
  split at herror
  · cases herror
    decide
  · exact hf _ e herror

/-- What clients meet, by one of the clocks. -/
def network (now : Host → Nat) : Network Host where
  now := now
  connect := connect
  write connection := .final (fun bs => act connection (Channel.send bs))
    (fun bs => act_final connection (Channel.send_final bs))
  read connection := .final (fun count => act connection (Channel.receive count))
    (fun count => act_final connection (Channel.receive_final count))
  close connection := turn connection Channel.hangUp

def pause (span : Nat) (h : Host) : Host := { h with systemClock := h.systemClock + span }

def advance (span : Nat) (h : Host) : Host := { h with clock := h.clock + span }

/-- Whether somebody answers at a path. -/
def isLive (h : Host) (path : String) : Bool :=
  match h.connect path with
  | (.ok _, _) => true
  | (.error _, _) => false

/-- Removes the socket that an ended server left at a path. Anything else there stays, and so does a socket
on which somebody answers. -/
def clear (h : Host) (path : String) : Except Fault Tree :=
  match h.tree.at? path with
  | none => .ok h.tree
  | some (.socket _) =>
    if h.isLive path then .error (.worded .addressInUse "another server is listening")
    else h.tree.remove path
  | some _ => .error (.worded .alreadyExists "path exists and is not a socket")

/-- What is said of an address that there is no room for. -/
def tooLong (address : String) : String :=
  "path must be " ++ (if Address.isBare address then "no longer" else "shorter") ++
    " than libc::sockaddr_un.sun_path"

/-- Makes a socket at an address where nothing is. -/
def openSocket (t : Tree) (address : String) (listener : Option Nat) : Except Fault Tree :=
  if !Address.fits address then .error (.worded .invalidInput (tooLong address))
  else match socketPlace t address Tree.place with
    | .error f => .error f
    | .ok place =>
      match t.item? place with
      | some _ => .error (.system .addressInUse)
      | none =>
        if Path.namesDirectory (Address.path address) then .error (.system .noEntry)
        else .ok (t.put place (.socket listener))

/-- Takes away what is at the path of a server that ends, unless it is a directory, or its bare name. -/
def closeSocket (t : Tree) (address : String) : Tree :=
  if Address.isBare address then t.erase [address] else t.clear address

/-- Makes a server with a socket at a path, in a directory that is made if need be, and gives its number.
It does not work yet. -/
def bind (limit : Nat) (path : String) (h : Host) : Except VolumeError Nat × Host :=
  let (made, tree) : Except Fault Unit × Tree := match Path.parent? path with
    | none => (.ok (), h.tree)
    | some above => h.tree.makeDirectories above
  let h := { h with tree }
  match made with
  | .error f => (.error (.bind path f), h)
  | .ok _ =>
    match h.clear path with
    | .error f => (.error (.bind path f), h)
    | .ok tree =>
      match openSocket tree path h.bound with
      | .error f => (.error (.bind path f), { h with tree })
      | .ok tree =>
        let station := { number := h.bound, path, isRunning := false, server := .make limit }
        (.ok h.bound, { h with tree, bound := h.bound + 1, stations := station :: h.stations })

/-- Lets a server work. Those who connected before are served first. -/
def run (number : Nat) (h : Host) : Host :=
  match h.station? number with
  | none => h
  | some s =>
    let h := h.setStation { s with isRunning := true }
    (List.range h.channels.length).foldl (fun h connection =>
      match h.channels[connection]?, h.station? number with
      | some c, some s => if c.listener = number then h.welcome s connection else h
      | _, _ => h) h

/-- Ends a server: its connections are closed, and what is at its path is removed unless it is a
directory. -/
def shut (number : Nat) (h : Host) : Host :=
  match h.station? number with
  | none => h
  | some s =>
    { h with
      tree := closeSocket h.tree s.path
      stations := h.stations.filter (·.number ≠ number)
      channels := h.channels.map fun c => if c.listener = number then c.drop else c }

/-- Puts a server into service, or none, and ends the one before. -/
def replace (number : Option Nat) (h : Host) : Host :=
  { h.active.elim h h.shut with active := number }

/-- Makes a server and puts it into service. If it cannot be made the one before stays. -/
def start (limit : Nat) (path : String) (h : Host) : Except VolumeError Unit × Host :=
  match h.bind limit path with
  | (.error e, h) => (.error e, h)
  | (.ok number, h) => (.ok (), (h.run number).replace (some number))

def discard (h : Host) : Host := { h.prepared.elim h h.shut with prepared := none }

/-- Makes a server that waits to be launched. -/
def prepare (limit : Nat) (path : String) (h : Host) : Except VolumeError Unit × Host :=
  match h.bind limit path with
  | (.error e, h) => (.error e, h)
  | (.ok number, h) => (.ok (), { h.discard with prepared := some number })

/-- Puts the server that waits into service. -/
def launch (h : Host) : Host :=
  match h.prepared with
  | none => h
  | some number => { (h.run number).replace (some number) with prepared := none }

def stop (h : Host) : Host := h.replace none

def stats (h : Host) : Option Stats := (h.active.bind h.station?).map (·.server.stats)

end Host
end Patchbay.Volume
