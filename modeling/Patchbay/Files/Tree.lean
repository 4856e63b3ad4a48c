import Patchbay.Files.Path
import Patchbay.Net.Fault
import Patchbay.Wire.Word
/-!
# The tree of files

Directories, files and sockets by their place below the root. An operation that fails says why in the
words of the system and leaves the tree as it was, except that a directory made on the way stays.
-/

namespace Patchbay.Files

open Patchbay.Net Patchbay.Wire

/-- What is at a place. -/
inductive Item where
  | directory
  | file (contents : Bytes)
  /-- A socket, and the number of who listens on it. -/
  | socket (listener : Option Nat)
  deriving DecidableEq, Repr

/-- A place, as the parts of the path from the root. -/
abbrev Place := List String

/-- The tree, and the directory that relative paths start from. -/
structure Tree where
  current : Place
  items : List (Place × Item)
  deriving DecidableEq, Repr

namespace Tree

/-- A tree with nothing but the directories on the way to the current one. -/
def make (current : String) : Tree :=
  let place := Path.parts current
  { current := place,
    items := (List.range place.length).map fun n => (place.take (n + 1), .directory) }

/-- What is at a place. The root is a directory. -/
def item? (t : Tree) (p : Place) : Option Item := if p = [] then some .directory else t.items.lookup p

/-- The most bytes of a name. -/
def maxName : Nat := 255

/-- The most bytes of a path, its terminator included. -/
def pathRoom : Nat := 4096

/-- Follows parts from a place on. All but the last one lead through directories. -/
def walk (t : Tree) (place : Place) : List String → Except Fault Place
  | [] => .ok place
  | part :: rest =>
    match t.item? place with
    | none => .error (.system .noEntry)
    | some .directory =>
      if maxName < part.utf8ByteSize then .error (.system .nameTooLong)
      else walk t (if part = ".." then place.dropLast else place ++ [part]) rest
    | some _ => .error (.system .notDirectory)

/-- The place of a path, whose directory exists. -/
def place (t : Tree) (path : String) : Except Fault Place :=
  if path.toList.contains '\x00' then
    .error (.worded .invalidInput "file name contained an unexpected NUL byte")
  else if path = "" then .error (.system .noEntry)
  else if pathRoom ≤ path.utf8ByteSize then .error (.system .nameTooLong)
  else t.walk (if Path.isAbsolute path then [] else t.current) (Path.parts path)

/-- The place of a path at which there is something that the path can name, or nothing. -/
def locate (t : Tree) (path : String) : Except Fault Place :=
  match t.place path with
  | .error f => .error f
  | .ok place =>
    match t.item? place with
    | none | some .directory => .ok place
    | some _ => if Path.namesDirectory path then .error (.system .notDirectory) else .ok place

def at? (t : Tree) (path : String) : Option Item := (t.locate path).toOption.bind t.item?

def isDirectory (t : Tree) (path : String) : Bool := t.at? path = some .directory

def put (t : Tree) (place : Place) (item : Item) : Tree :=
  { t with items := (place, item) :: t.items.filter (·.1 ≠ place) }

def erase (t : Tree) (place : Place) : Tree := { t with items := t.items.filter (·.1 ≠ place) }

def makeDirectory (t : Tree) (path : String) : Except Fault Tree :=
  match t.place path with
  | .error f => .error f
  | .ok place =>
    match t.item? place with
    | some _ => .error (.system .exists)
    | none => .ok (t.put place .directory)

/-- Makes a directory and those above it, at most `depth` of them. What is there already is fine as long
as it is a directory. -/
def makeDirectoriesWithin (t : Tree) : Nat → String → Except Fault Unit × Tree
  | 0, _ => (.error (.system .nameTooLong), t)
  | depth + 1, path =>
    if path = "" then (.ok (), t)
    else match t.makeDirectory path with
      | .ok t => (.ok (), t)
      | .error f =>
        if f ≠ .system .noEntry then (if t.isDirectory path then .ok () else .error f, t)
        else match Path.parent? path with
          | none => (.error (.worded .other "failed to create whole tree"), t)
          | some above =>
            match makeDirectoriesWithin t depth above with
            | (.error f, t) => (.error f, t)
            | (.ok _, t) =>
              match t.makeDirectory path with
              | .ok t => (.ok (), t)
              | .error f => (if t.isDirectory path then .ok () else .error f, t)

def makeDirectories (t : Tree) (path : String) : Except Fault Unit × Tree :=
  t.makeDirectoriesWithin (path.length + 1) path

/-- Writes a file, over one that is there. -/
def write (t : Tree) (path : String) (contents : Bytes) : Except Fault Tree :=
  match t.locate path with
  | .error f => .error f
  | .ok place =>
    match t.item? place with
    | some .directory => .error (.system .isDirectory)
    | some (.socket _) => .error (.system .noDevice)
    | some (.file _) => .ok (t.put place (.file contents))
    | none =>
      if Path.namesDirectory path then .error (.system .isDirectory) else .ok (t.put place (.file contents))

def read (t : Tree) (path : String) : Except Fault Bytes :=
  match t.locate path with
  | .error f => .error f
  | .ok place =>
    match t.item? place with
    | none => .error (.system .noEntry)
    | some .directory => .error (.system .isDirectory)
    | some (.socket _) => .error (.system .noDevice)
    | some (.file contents) => .ok contents

/-- Moves a file, over one that is there. -/
def rename (t : Tree) (source target : String) : Except Fault Tree :=
  match t.locate source, t.locate target with
  | .error f, _ | _, .error f => .error f
  | .ok sourcePlace, .ok targetPlace =>
    match t.item? sourcePlace, t.item? targetPlace with
    | none, _ => .error (.system .noEntry)
    | some _, some .directory => .error (.system .isDirectory)
    | some item, _ =>
      if Path.namesDirectory target then .error (.system .notDirectory)
      else .ok ((t.erase sourcePlace).put targetPlace item)

def remove (t : Tree) (path : String) : Except Fault Tree :=
  match t.locate path with
  | .error f => .error f
  | .ok place =>
    match t.item? place with
    | none => .error (.system .noEntry)
    | some .directory => .error (.system .isDirectory)
    | some _ => .ok (t.erase place)

/-- Writes a file in a directory that is made if need be, if that can be done. -/
def plant (t : Tree) (path : String) (contents : Bytes) : Tree :=
  let t := (t.makeDirectories ((Path.parent? path).getD "")).2
  (t.write path contents).toOption.getD t

/-- Takes away a file or socket, if one is there. -/
def clear (t : Tree) (path : String) : Tree := (t.remove path).toOption.getD t

/-- The files and sockets below a directory by their path from there, in the order of the paths, with the
contents of those that can be read. -/
def below (t : Tree) (path : String) : List (String × Option Bytes) :=
  let here := Path.parts path
  let named (place : Place) (contents : Option Bytes) : Option (String × Option Bytes) :=
    if here.isPrefixOf place then some ("/".intercalate (place.drop here.length), contents) else none
  (t.items.filterMap fun (place, item) =>
    match item with
    | .directory => none
    | .file contents => named place (some contents)
    | .socket _ => named place none).mergeSort fun a b => a.1 ≤ b.1

end Tree
end Patchbay.Files
