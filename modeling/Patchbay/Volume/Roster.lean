import Patchbay.Volume.Error
import Patchbay.Wire.Answer
/-!
# The roster of registered processes

The server's table from process id to volume and mute flag, with a limit on the number of entries.
Entries stand in ascending order of their ids, one per id, so that a listing is the entries as they
stand and equal contents are equal rosters. An entry stays until its process unregisters; a connection
that ends leaves it, and the same process may register over it.
-/

namespace Patchbay.Volume

open Patchbay.Wire

/-- Volumes outside the unit interval are refused and never moved into it. -/
def checkVolume (volume : Single) : Except Status Single :=
  if volume.inUnit then .ok volume else .error .invalidVolume

structure Entry where
  pid : UInt32
  volume : Single
  muted : Bool
  /-- Milliseconds since the epoch. -/
  registeredAt : UInt64
  name : String
  deriving DecidableEq, Repr

/-- The entry as a listing shows it. -/
def Entry.listing (e : Entry) : Listing :=
  { pid := e.pid, volume := e.volume, muted := e.muted, connectedAt := e.registeredAt, name := e.name }

/-- The registered processes and how many there may be. -/
structure Roster where
  limit : Nat
  entries : List Entry
  deriving DecidableEq, Repr

namespace Roster

def empty (limit : Nat) : Roster := { limit, entries := [] }

def size (r : Roster) : Nat := r.entries.length

def find? (r : Roster) (pid : UInt32) : Option Entry := r.entries.find? (·.pid = pid)

def contains (r : Roster) (pid : UInt32) : Bool := (r.find? pid).isSome

/-- Puts an entry at its place, over one with the same id. -/
def insertEntry (e : Entry) : List Entry → List Entry
  | [] => [e]
  | x :: rest =>
    if e.pid < x.pid then e :: x :: rest
    else if e.pid = x.pid then e :: rest
    else x :: insertEntry e rest

/-- Puts an entry into the roster, over one with the same id. -/
def insert (r : Roster) (e : Entry) : Roster := { r with entries := insertEntry e r.entries }

def erase (r : Roster) (pid : UInt32) : Roster :=
  { r with entries := r.entries.filter (·.pid ≠ pid) }

/-- Registers a process, over an entry it left behind; that never counts against the limit. Says
whether there was one. A volume out of range is refused before the limit is looked at. -/
def register (r : Roster) (pid : UInt32) (volume : Single) (muted : Bool) (name : String)
    (now : UInt64) : Except VolumeError (Bool × Roster) :=
  match checkVolume volume with
  | .error s => .error (.rejected s)
  | .ok volume =>
    let replaced := r.contains pid
    if !replaced && r.limit ≤ r.size then .error (.tableFull r.limit)
    else .ok (replaced, r.insert { pid, volume, muted, registeredAt := now, name := Name.clip name })

/-- Takes a process out and gives its last entry, if it was registered. -/
def unregister (r : Roster) (pid : UInt32) : Option (Entry × Roster) :=
  (r.find? pid).map fun e => (e, r.erase pid)

/-- Changes the volume of a registered process. The volume is checked first. -/
def setVolume (r : Roster) (pid : UInt32) (volume : Single) : Except Status (Entry × Roster) :=
  match checkVolume volume with
  | .error s => .error s
  | .ok volume =>
    match r.find? pid with
    | none => .error .clientNotFound
    | some e => let e := { e with volume }; .ok (e, r.insert e)

def setMute (r : Roster) (pid : UInt32) (muted : Bool) : Except Status (Entry × Roster) :=
  match r.find? pid with
  | none => .error .clientNotFound
  | some e => let e := { e with muted }; .ok (e, r.insert e)

/-- All entries in ascending order of their ids. -/
def list (r : Roster) : List Listing := r.entries.map Entry.listing

end Roster
end Patchbay.Volume
