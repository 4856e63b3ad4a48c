/-!
# Status codes

Every answer that is not a listing carries a 32-bit status. Codes that no status has are read as an
internal error.
-/

namespace Patchbay.Wire

inductive Status where
  | ok
  | invalidHeader
  | unknownCommand
  | payloadTooLarge
  | clientNotFound
  | invalidVolume
  | serviceUnavailable
  | internalError
  deriving DecidableEq, Repr, Inhabited

namespace Status

def code : Status → UInt32
  | ok => 0
  | invalidHeader => 1
  | unknownCommand => 2
  | payloadTooLarge => 3
  | clientNotFound => 4
  | invalidVolume => 5
  | serviceUnavailable => 6
  | internalError => 7

/-- The status of a code; codes that no status has are internal errors. -/
def ofCode (c : UInt32) : Status :=
  match c.toNat with
  | 0 => ok
  | 1 => invalidHeader
  | 2 => unknownCommand
  | 3 => payloadTooLarge
  | 4 => clientNotFound
  | 5 => invalidVolume
  | 6 => serviceUnavailable
  | _ => internalError

def text : Status → String
  | ok => "ok"
  | invalidHeader => "invalid header"
  | unknownCommand => "unknown command"
  | payloadTooLarge => "payload too large"
  | clientNotFound => "client not found"
  | invalidVolume => "invalid volume"
  | serviceUnavailable => "service unavailable"
  | internalError => "internal error"

@[simp] theorem ofCode_code (s : Status) : ofCode s.code = s := by
  cases s <;> rfl

end Status
end Patchbay.Wire
