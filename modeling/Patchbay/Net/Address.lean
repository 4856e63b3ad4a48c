/-!
# Addresses of sockets

A socket is found by the path of its file, up to the first NUL, which has room behind it. An address that
begins with a NUL is a bare name: it has no file, counts to its end, and is gone when nobody listens on it.
-/

namespace Patchbay.Net.Address

/-- The most bytes of an address, the NUL behind a path included. -/
def room : Nat := 108

/-- Whether an address is a bare name. -/
def isBare (address : String) : Bool := address.toList.head? = some '\x00'

/-- Whether there is room for an address. -/
def fits (address : String) : Bool :=
  if isBare address then address.utf8ByteSize ≤ room else address.utf8ByteSize < room

/-- The path that an address stands for. -/
def path (address : String) : String := String.ofList (address.toList.takeWhile (· ≠ '\x00'))

end Patchbay.Net.Address
