import Patchbay.Net.Operation
/-!
# Stream sockets

The operations of a client on stream sockets, and a clock, over some state `ω` of the world. Connections
are known by number. Writing and reading may be interrupted, and a client then tries again.
-/

namespace Patchbay.Net

open Patchbay.Wire

/-- What a client does with the world. -/
structure Network (ω : Type) where
  /-- The time in nanoseconds. It never goes back. -/
  now : ω → Nat
  /-- Opens a connection to the socket of this path. -/
  connect : String → ω → Except Fault Nat × ω
  /-- Offers bytes and reports how many of them were taken. -/
  write : Nat → Socket ω
  /-- Asks for at most so many bytes. None are given when the peer has closed. -/
  read : Nat → Operation ω Nat Bytes
  /-- Closes a connection. -/
  close : Nat → ω → ω

end Patchbay.Net
