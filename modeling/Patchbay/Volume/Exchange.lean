import Patchbay.Net.Network
import Patchbay.Volume.Error
import Patchbay.Wire.Answer
/-!
# One request and its answer

`exchange` writes a request to a connection and reads the answer: a header, which is judged before
anything behind it is touched, then as many bytes as it announces. Attempts to write or read that are
interrupted are made again (`Operation.perform`). Whatever else goes wrong in between leaves the stream in
the middle of a message.
-/

namespace Patchbay.Volume

open Patchbay.Net Patchbay.Wire

/-- What the server answered to a request. -/
structure Answer where
  requestId : UInt32
  payload : Bytes
  deriving DecidableEq, Repr

namespace Exchange

variable {ω : Type}

/-- Writes `rest` of `total` bytes, in as many pieces as the peer takes. -/
def writeRest (n : Network ω) (connection total : Nat) (rest : Bytes) (w : ω) :
    Except VolumeError Unit × ω :=
  if rest = [] then (.ok (), w)
  else match n.write connection rest w with
    | (.error f, w) => (.error (.ofFault f), w)
    | (.ok 0, w) => (.error (.shortWrite total (total - rest.length)), w)
    | (.ok (k + 1), w) => writeRest n connection total (rest.drop (k + 1)) w
  termination_by rest.length
  decreasing_by
    have := List.length_pos_iff.2 ‹_›
    simp only [List.length_drop]
    omega

def writeAll (n : Network ω) (connection : Nat) (bs : Bytes) (w : ω) : Except VolumeError Unit × ω :=
  writeRest n connection bs.length bs w

/-- Reads `missing` of `total` bytes behind those in `got`, in as many pieces as the peer sends. -/
def readRest (n : Network ω) (connection total missing : Nat) (got : Bytes) (w : ω) :
    Except VolumeError Bytes × ω :=
  if missing = 0 then (.ok got, w)
  else match n.read connection missing w with
    | (.error f, w) => (.error (.ofFault f), w)
    | (.ok [], w) => (.error (.shortRead total got.length), w)
    | (.ok (b :: bs), w) => readRest n connection total (missing - (bs.length + 1)) (got ++ b :: bs) w
  termination_by missing

/-- Reads exactly so many bytes. -/
def readExactly (n : Network ω) (connection count : Nat) (w : ω) : Except VolumeError Bytes × ω :=
  readRest n connection count count [] w

/-- What an answer with a header that may be trusted says. -/
def judge (asked : UInt32) (header : Header) (command : Command) (payload : Bytes) :
    Except VolumeError Answer :=
  if header.requestId ≠ asked then
    .error (.unexpectedResponse (.otherRequest asked header.requestId))
  else match command with
    | .response => .ok { requestId := asked, payload }
    | .error =>
      match Report.decode payload with
      | .ok report => .error (.rejected report.status)
      | .error _ => .error (.rejected .internalError)
    | other => .error (.unexpectedResponse (.notAnAnswer other))

/-- Reads the answer to the request of an id. -/
def readAnswer (n : Network ω) (connection : Nat) (asked : UInt32) (w : ω) :
    Except VolumeError Answer × ω :=
  match readExactly n connection headerSize w with
  | (.error e, w) => (.error e, w)
  | (.ok bs, w) =>
    let header := Header.ofBytes bs
    match header.validate with
    | .error status => (.error (.invalidHeader status), w)
    | .ok command =>
      match readExactly n connection header.payloadLength.toNat w with
      | (.error e, w) => (.error e, w)
      | (.ok payload, w) => (judge asked header command payload, w)

end Exchange

/-- Writes a request and reads its answer. -/
def exchange {ω : Type} (n : Network ω) (connection : Nat) (request : Request) (id : UInt32) (w : ω) :
    Except VolumeError Answer × ω :=
  match Exchange.writeAll n connection (request.message id) w with
  | (.error e, w) => (.error e, w)
  | (.ok _, w) => Exchange.readAnswer n connection id w

end Patchbay.Volume
