/-!
# Command codes

The sixteen-bit code in a message header says what the message is: one of eight requests that
clients send, or one of the two answers of the server. `ofCode?` and `code` are inverse.
-/

namespace Patchbay.Wire

/-- What a message asks or answers. -/
inductive Command where
  | register
  | unregister
  | getVolume
  | setVolume
  | getMute
  | setMute
  | listClients
  | ping
  | response
  | error
  deriving DecidableEq, Repr, Inhabited

namespace Command

def code : Command → UInt16
  | register => 1
  | unregister => 2
  | getVolume => 3
  | setVolume => 4
  | getMute => 5
  | setMute => 6
  | listClients => 7
  | ping => 8
  | response => 0x80
  | error => 0x81

/-- The command of a code, if it is one. -/
def ofCode? (c : UInt16) : Option Command :=
  match c.toNat with
  | 1 => some register
  | 2 => some unregister
  | 3 => some getVolume
  | 4 => some setVolume
  | 5 => some getMute
  | 6 => some setMute
  | 7 => some listClients
  | 8 => some ping
  | 0x80 => some response
  | 0x81 => some error
  | _ => none

/-- Clients send everything but the two answers. -/
def isRequest : Command → Bool
  | response | error => false
  | _ => true

def name : Command → String
  | register => "Register"
  | unregister => "Unregister"
  | getVolume => "GetVolume"
  | setVolume => "SetVolume"
  | getMute => "GetMute"
  | setMute => "SetMute"
  | listClients => "ListClients"
  | ping => "Ping"
  | response => "Response"
  | error => "Error"

@[simp] theorem ofCode?_code (c : Command) : ofCode? c.code = some c := by
  cases c <;> rfl

theorem code_of_ofCode? {n : UInt16} {c : Command} (h : ofCode? n = some c) : c.code = n := by
  unfold ofCode? at h
  split at h <;> first
    | (cases h; rename_i hn; apply UInt16.toNat_inj.1; rw [hn]; rfl)
    | simp at h

end Command
end Patchbay.Wire
