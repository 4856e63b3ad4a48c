/-!
# Failures of the operating system

What a socket or file operation may report. A fault is an error number of the system, a bare kind, or a
kind with a text of its own; `kind` and `text` say how each is classified and worded.
-/

namespace Patchbay.Net

/-- What sort of failure a fault is. -/
inductive FaultKind where
  | notFound
  | permissionDenied
  | connectionRefused
  | connectionReset
  | connectionAborted
  | notConnected
  | addressInUse
  | addressNotAvailable
  | brokenPipe
  | alreadyExists
  | wouldBlock
  | notADirectory
  | isADirectory
  | directoryNotEmpty
  | invalidInput
  | invalidData
  | timedOut
  | writeZero
  | interrupted
  | unsupported
  | unexpectedEnd
  | outOfMemory
  | other
  deriving DecidableEq, Repr, Inhabited

def FaultKind.text : FaultKind → String
  | notFound => "entity not found"
  | permissionDenied => "permission denied"
  | connectionRefused => "connection refused"
  | connectionReset => "connection reset"
  | connectionAborted => "connection aborted"
  | notConnected => "not connected"
  | addressInUse => "address in use"
  | addressNotAvailable => "address not available"
  | brokenPipe => "broken pipe"
  | alreadyExists => "entity already exists"
  | wouldBlock => "operation would block"
  | notADirectory => "not a directory"
  | isADirectory => "is a directory"
  | directoryNotEmpty => "directory not empty"
  | invalidInput => "invalid input parameter"
  | invalidData => "invalid data"
  | timedOut => "timed out"
  | writeZero => "write zero"
  | interrupted => "operation interrupted"
  | unsupported => "unsupported"
  | unexpectedEnd => "unexpected end of file"
  | outOfMemory => "out of memory"
  | other => "other error"

/-- The error numbers that the file and socket operations meet. -/
inductive ErrorNumber where
  | noEntry
  | noDevice
  | exists
  | notDirectory
  | isDirectory
  | nameTooLong
  | notEmpty
  | brokenPipe
  | addressInUse
  | connectionReset
  | connectionRefused
  deriving DecidableEq, Repr, Inhabited

namespace ErrorNumber

def number : ErrorNumber → Nat
  | noEntry => 2
  | noDevice => 6
  | «exists» => 17
  | notDirectory => 20
  | isDirectory => 21
  | nameTooLong => 36
  | notEmpty => 39
  | brokenPipe => 32
  | addressInUse => 98
  | connectionReset => 104
  | connectionRefused => 111

def text : ErrorNumber → String
  | noEntry => "No such file or directory"
  | noDevice => "No such device or address"
  | «exists» => "File exists"
  | notDirectory => "Not a directory"
  | isDirectory => "Is a directory"
  | nameTooLong => "File name too long"
  | notEmpty => "Directory not empty"
  | brokenPipe => "Broken pipe"
  | addressInUse => "Address already in use"
  | connectionReset => "Connection reset by peer"
  | connectionRefused => "Connection refused"

/-- The sort of failure that a number stands for. -/
def kind : ErrorNumber → FaultKind
  | noEntry => .notFound
  | noDevice => .other
  | «exists» => .alreadyExists
  | notDirectory => .notADirectory
  | isDirectory => .isADirectory
  | nameTooLong => .invalidInput
  | notEmpty => .directoryNotEmpty
  | brokenPipe => .brokenPipe
  | addressInUse => .addressInUse
  | connectionReset => .connectionReset
  | connectionRefused => .connectionRefused

end ErrorNumber

inductive Fault where
  /-- Reported by the system. -/
  | system (number : ErrorNumber)
  /-- A kind and nothing more. -/
  | bare (kind : FaultKind)
  /-- A kind with a text of its own. -/
  | worded (kind : FaultKind) (text : String)
  deriving DecidableEq, Repr

namespace Fault

def kind : Fault → FaultKind
  | system n => n.kind
  | bare k => k
  | worded k _ => k

def text : Fault → String
  | system n => n.text ++ " (os error " ++ toString n.number ++ ")"
  | bare k => k.text
  | worded _ t => t

end Fault
end Patchbay.Net
