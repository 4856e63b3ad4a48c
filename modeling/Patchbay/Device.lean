import Patchbay.Text.Blank
/-!
# Devices

A device is known by its name and, when there is a choice, by the host it belongs to. Both are written
in one label, `[host] name`, and `DeviceId.parse` reads any text as an identifier: what is no such
label is a bare name.
-/

namespace Patchbay

open Text

/-- Name of a device and the host it belongs to, if given. -/
structure DeviceId where
  name : String
  host : Option String
  deriving DecidableEq, Repr

namespace DeviceId

def label (id : DeviceId) : String :=
  match id.host with
  | some host => "[" ++ host ++ "] " ++ id.name
  | none => id.name

/-- The host and the name in a text behind its opening bracket: the host reaches to the first closing
bracket, and neither is empty once blanks around the name are gone. -/
def hosted? (rest : List Char) : Option DeviceId :=
  let host := rest.takeWhile (· ≠ ']')
  match rest.dropWhile (· ≠ ']') with
  | [] => none
  | _ :: behind =>
    let name := trim behind
    if host.isEmpty || name.isEmpty then none
    else some { name := String.ofList name, host := some (String.ofList host) }

def parse (label : String) : DeviceId :=
  let chars := trim label.toList
  let bare : DeviceId := { name := String.ofList chars, host := none }
  match chars with
  | '[' :: rest => (hosted? rest).getD bare
  | _ => bare

end DeviceId

structure DeviceInfo where
  id : DeviceId
  /-- The rate at which the device runs. -/
  nominalRate : UInt32
  /-- The most channels it has in the direction it was found for. -/
  maxChannels : UInt16
  deriving DecidableEq, Repr

end Patchbay
