import Patchbay.Volume.Frame
import Patchbay.Volume.Exchange
/-!
# Talking to the server by hand

A caller sends bytes as they are, in whatever pieces, and reads the replies whole. It keeps what it sent
behind its last whole frame, and so knows how many replies it may expect.
-/

namespace Patchbay.Volume

open Patchbay.Net Patchbay.Wire

/-- A connection used by hand. -/
structure Caller where
  connection : Nat
  /-- The beginning of a frame that is not yet sent to its end. -/
  unfinished : Bytes
  deriving DecidableEq, Repr

namespace Caller

variable {ω : Type}

/-- Connects. A path with a NUL in it is refused. -/
def make (n : Network ω) (path : String) (w : ω) : Except Fault Caller × ω :=
  if path.toList.contains '\x00' then
    (.error (.worded .invalidInput "paths must not contain interior null bytes"), w)
  else
    let (r, w) := n.connect path w
    (r.map fun connection => { connection, unfinished := [] }, w)

/-- Sends bytes and gives the number of frames that they complete. -/
def send (n : Network ω) (bs : Bytes) (c : Caller) (w : ω) : Except Fault Nat × Caller × ω :=
  let (frames, unfinished) := Frame.drain (c.unfinished ++ bs)
  let (r, w) := n.write c.connection bs w
  (r.map fun _ => frames.length, { c with unfinished }, w)

/-- Reads a message as it is. -/
def readMessage (n : Network ω) (c : Caller) (w : ω) : Except VolumeError Bytes × ω :=
  match Exchange.readExactly n c.connection headerSize w with
  | (.error e, w) => (.error e, w)
  | (.ok header, w) =>
    match Exchange.readExactly n c.connection (Header.ofBytes header).payloadLength.toNat w with
    | (.error e, w) => (.error e, w)
    | (.ok payload, w) => (.ok (header ++ payload), w)

/-- Reads messages, so many if they come. -/
def readMessages (n : Network ω) (c : Caller) : Nat → ω → List Bytes × ω
  | 0, w => ([], w)
  | count + 1, w =>
    match c.readMessage n w with
    | (.error _, w) => ([], w)
    | (.ok m, w) =>
      let (rest, w) := readMessages n c count w
      (m :: rest, w)

end Caller
end Patchbay.Volume
