/-!
# Log lines

What a long-running part tells whoever watches it.
-/

namespace Patchbay.Log

inductive Level where
  | info
  | warn
  | error
  deriving DecidableEq, Repr

structure Line where
  level : Level
  text : String
  deriving DecidableEq, Repr

def info (text : String) : Line := { level := .info, text }

def warn (text : String) : Line := { level := .warn, text }

/-- A line about something lost. -/
def error (text : String) : Line := { level := .error, text }

end Patchbay.Log
