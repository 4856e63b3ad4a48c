import Patchbay.Settings.Basic
import Patchbay.Text.Quoted
/-!
# Command line arguments

Flags are read from left to right and a later one wins over an earlier one of its kind. The word behind a
flag that takes a value is the value, whatever it looks like. `apply` lays the values over settings.
-/

namespace Patchbay.Daemon

/-- What the command line says. -/
structure Arguments where
  /-- The device to route to. -/
  sink : Option String := none
  /-- The device that feeds the route. -/
  source : Option String := none
  /-- The file to read settings from. -/
  config : Option String := none
  /-- The process whose volume the route follows. -/
  gainPid : Option UInt32 := none
  /-- Only the volume server runs. -/
  noRouter : Bool := false
  /-- The settings are written and nothing runs. -/
  writeConfig : Bool := false
  /-- The usage is shown and nothing runs. -/
  help : Bool := false
  deriving DecidableEq, Repr

/-- How to call the program. -/
def usage : String :=
  "Usage: vroute [OPTIONS]\n\nOptions:\n" ++
  "  --sink <NAME>       Physical output device (\"Name\" or \"[Host] Name\")\n" ++
  "  --source <NAME>     Virtual input device (default: system default input)\n" ++
  "  --config <PATH>     Config file (default: <data dir>/vroute/config.yaml)\n" ++
  "  --gain-pid <PID>    Drive the router gain from this process's volume\n" ++
  "  --no-router         Run the volume server only\n" ++
  "  --write-config      Write the effective config to the config path and exit\n" ++
  "  -h, --help          Show this help\n\nEnvironment:\n" ++
  "  VROUTE_SOCKET       Override the volume server socket path\n" ++
  "  RUST_LOG            Log filter (default: info)"

/-- How a text fails to be a process id. -/
inductive PidError where
  | empty
  | notADigit
  | tooLarge
  deriving DecidableEq, Repr

def PidError.text : PidError → String
  | empty => "cannot parse integer from empty string"
  | notADigit => "invalid digit found in string"
  | tooLarge => "number too large to fit in target type"

/-- The number that digits stand for behind others that stand for `n`. The first character that is no
digit, or leads to a number too large for 32 bits, is what is wrong. -/
def pidOfDigits (n : Nat) : List Char → Except PidError Nat
  | [] => .ok n
  | c :: rest =>
    if !c.isDigit then .error .notADigit
    else
      let n := n * 10 + (c.toNat - '0'.toNat)
      if UInt32.size ≤ n then .error .tooLarge else pidOfDigits n rest

/-- Reads a process id: decimal digits, which may follow a plus sign. -/
def parsePid (s : String) : Except PidError UInt32 :=
  match s.toList with
  | [] => .error .empty
  | '+' :: c :: rest => (pidOfDigits 0 (c :: rest)).map UInt32.ofNat
  | cs => (pidOfDigits 0 cs).map UInt32.ofNat

/-- Why arguments cannot be read. -/
inductive ArgumentError where
  /-- The flag takes a value and is the last word. -/
  | missingValue (flag : String)
  | invalidPid (text : String) (cause : PidError)
  /-- The word is no flag. -/
  | unknown (word : String)
  deriving DecidableEq, Repr

namespace ArgumentError

def message : ArgumentError → String
  | missingValue flag => flag ++ " needs a value"
  | invalidPid text _ => "invalid pid " ++ Text.Quoted.text text
  | unknown word => "unknown argument " ++ Text.Quoted.text word ++ "\n\n" ++ usage

def causes : ArgumentError → List String
  | invalidPid _ cause => [cause.text]
  | missingValue _ | unknown _ => []

end ArgumentError

namespace Arguments

/-- Reads words over what earlier ones said. -/
def parseOver (a : Arguments) : List String → Except ArgumentError Arguments
  | [] => .ok a
  | "--no-router" :: rest => { a with noRouter := true }.parseOver rest
  | "--write-config" :: rest => { a with writeConfig := true }.parseOver rest
  | "-h" :: rest | "--help" :: rest => { a with help := true }.parseOver rest
  | "--sink" :: value :: rest => { a with sink := some value }.parseOver rest
  | "--source" :: value :: rest => { a with source := some value }.parseOver rest
  | "--config" :: value :: rest => { a with config := some value }.parseOver rest
  | "--gain-pid" :: value :: rest =>
    match parsePid value with
    | .error cause => .error (.invalidPid value cause)
    | .ok pid => { a with gainPid := some pid }.parseOver rest
  | word :: _ =>
    if ["--sink", "--source", "--config", "--gain-pid"].contains word then .error (.missingValue word)
    else .error (.unknown word)

/-- Reads the words of a command line. -/
def parse (words : List String) : Except ArgumentError Arguments := parseOver {} words

/-- Lays the values over settings. -/
def apply (a : Arguments) (s : Settings) : Settings :=
  { s with
    sinkDevice := a.sink <|> s.sinkDevice
    route := { s.route with sourceDevice := a.source.map DeviceId.parse <|> s.route.sourceDevice }
    gainPid := a.gainPid <|> s.gainPid }

end Arguments
end Patchbay.Daemon
