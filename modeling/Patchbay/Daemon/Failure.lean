import Patchbay.Text.Pieces
/-!
# How the program ends when it fails

A failure says what could not be done, and then why, each reason for the one before.
-/

namespace Patchbay.Daemon

/-- A message and the chain of its causes. -/
structure Failure where
  message : String
  causes : List String
  deriving DecidableEq, Repr

namespace Failure

/-- A text with `first` before its first line and `later` before the others. -/
def indented (first later text : String) : String :=
  first ++ ("\n" ++ later).intercalate ((Text.pieces '\n' text.toList).map String.ofList)

/-- Causes one below the other. Several are numbered. -/
def causeLines : List String → List String
  | [cause] => [indented "    " "    " cause]
  | causes => (causes.zipIdx).map fun (cause, i) =>
    let number := toString i
    indented (String.ofList (List.replicate (5 - number.length) ' ') ++ number ++ ": ") "       " cause

/-- The failure as the program reports it. -/
def report (f : Failure) : String :=
  "Error: " ++ f.message ++
    (if f.causes.isEmpty then "" else "\n\nCaused by:\n" ++ "\n".intercalate (causeLines f.causes)) ++ "\n"

end Failure
end Patchbay.Daemon
