import Patchbay.Files.Path
import Patchbay.Settings.Basic
/-!
# Where settings and sockets are

The user's data directory holds one directory of the program, with its settings and its socket in it. The
environment may move the data directory and the socket.
-/

namespace Patchbay

structure Environment where
  /-- The user's home directory, if known. -/
  home : Option String
  /-- The data directory. It counts only if it is absolute. -/
  dataHome : Option String
  /-- The socket. It counts unless it is empty. -/
  socket : Option String
  deriving DecidableEq, Repr

namespace Environment

def dataDirectory? (e : Environment) : Option String :=
  match e.dataHome.filter Files.Path.isAbsolute with
  | some path => some path
  | none => e.home.map fun home => Files.Path.join home ".local/share"

/-- The directory of the program. -/
def supportDirectory (e : Environment) : String :=
  Files.Path.join (e.dataDirectory?.getD ".") "vroute"

def settingsPath (e : Environment) : String := Files.Path.join e.supportDirectory "config.yaml"

/-- The socket at a given path, or at the usual place if there is none or it is empty. -/
def socketAt (e : Environment) (path : Option String) : String :=
  (path.filter (· ≠ "")).getD (Files.Path.join e.supportDirectory "vroute.sock")

/-- The socket when settings do not say where it is. -/
def defaultSocket (e : Environment) : String := e.socketAt e.socket

end Environment

/-- The socket of the volume server. -/
def VolumeSettings.path (s : VolumeSettings) (e : Environment) : String :=
  match s.socketPath with
  | some path => e.socketAt (some path)
  | none => e.defaultSocket

end Patchbay
