import Patchbay.Single
import Patchbay.Wire.Header
import Patchbay.Wire.Name
/-!
# Requests

The eight things a client may ask, their payloads, and the way back. A payload whose size does not fit
the layout of its command had a wrong length in its header, and is reported as an invalid header.
Padding is written as zeros and not looked at when read; any mute byte but zero means muted.
-/

namespace Patchbay.Wire

/-- A mute flag as a byte. -/
def flagByte (b : Bool) : UInt8 := if b then 1 else 0

inductive Request where
  | register (pid : UInt32) (volume : Single) (muted : Bool) (name : String)
  | unregister (pid : UInt32)
  | getVolume (pid : UInt32)
  | setVolume (pid : UInt32) (volume : Single)
  | getMute (pid : UInt32)
  | setMute (pid : UInt32) (muted : Bool)
  | listClients
  | ping
  deriving DecidableEq, Repr

namespace Request

/-- The command that announces a request. -/
def command : Request → Command
  | register .. => .register
  | unregister _ => .unregister
  | getVolume _ => .getVolume
  | setVolume .. => .setVolume
  | getMute _ => .getMute
  | setMute .. => .setMute
  | listClients => .listClients
  | ping => .ping

/-- The bytes of a registration in front of its name. -/
def registerSize : Nat := 12

/-- A process id as four bytes. -/
def pidBytes (pid : UInt32) : Bytes := Word.ofNat 4 pid.toNat

/-- A volume as four bytes. -/
def volumeBytes (volume : Single) : Bytes := Word.ofNat 4 volume.bits.toNat

/-- A mute flag with three bytes of padding. -/
def flagBytes (muted : Bool) : Bytes := [flagByte muted, 0, 0, 0]

def encode : Request → Bytes
  | register pid volume muted name =>
    pidBytes pid ++ volumeBytes volume ++ flagBytes muted ++ Name.encode name ++ [0]
  | unregister pid | getVolume pid | getMute pid => pidBytes pid
  | setVolume pid volume => pidBytes pid ++ volumeBytes volume
  | setMute pid muted => pidBytes pid ++ flagBytes muted
  | listClients | ping => []

/-- The four bytes at an offset, as a word. -/
def wordAt (offset : Nat) (bs : Bytes) : UInt32 :=
  UInt32.ofNat (Word.toNat ((bs.drop offset).take 4))

/-- The byte at an offset as a mute flag. -/
def flagAt (offset : Nat) (bs : Bytes) : Bool := bs.getD offset 0 ≠ 0

/-- A payload of exactly `size` bytes, read by `f`. -/
def ofExactly (size : Nat) (payload : Bytes) (f : Bytes → Request) : Except Status Request :=
  if payload.length = size then .ok (f payload) else .error .invalidHeader

/-- Reads the payload of a command. -/
def decode (command : Command) (payload : Bytes) : Except Status Request :=
  match command with
  | .register =>
    match cut registerSize payload with
    | none => .error .invalidHeader
    | some (fixed, name) =>
      .ok (register (wordAt 0 fixed) ⟨wordAt 4 fixed⟩ (flagAt 8 fixed) (Name.ofField name))
  | .unregister => ofExactly 4 payload fun bs => unregister (wordAt 0 bs)
  | .getVolume => ofExactly 4 payload fun bs => getVolume (wordAt 0 bs)
  | .getMute => ofExactly 4 payload fun bs => getMute (wordAt 0 bs)
  | .setVolume => ofExactly 8 payload fun bs => setVolume (wordAt 0 bs) ⟨wordAt 4 bs⟩
  | .setMute => ofExactly 8 payload fun bs => setMute (wordAt 0 bs) (flagAt 4 bs)
  | .listClients => .ok listClients
  | .ping => .ok ping
  | .response | .error => .error .unknownCommand

/-- The process that a request is about, if it names one. -/
def pid? : Request → Option UInt32
  | register pid .. | unregister pid | getVolume pid | setVolume pid _ | getMute pid
  | setMute pid _ => some pid
  | listClients | ping => none

def message (r : Request) (requestId : UInt32) : Bytes :=
  encodeMessage r.command requestId r.encode

theorem isRequest_command (r : Request) : r.command.isRequest = true := by
  cases r <;> rfl

end Request
end Patchbay.Wire
